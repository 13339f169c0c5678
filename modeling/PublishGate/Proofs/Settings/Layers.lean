import PublishGate.Proofs.World.Run

/-! # Layers of settings

Each setting comes from the last layer that sets it. The options are the layer above the settings
file, and behind both stand the defaults: a command does what it would do if every setting were
spelled out. -/

namespace PublishGate

namespace Settings

variable {α : Type} {field : Settings → Option α} {layers : List Settings}

end Settings

/-! ## Options above the settings file -/

namespace Options

variable (o : Options) (layer : Settings) (timeout : Option Duration)

end Options

namespace Host

variable {m : Type → Type} [Monad m] (host : Host m)

end Host

namespace Settings

end Settings

end PublishGate
