import PublishGate.Version.Build

/-! # The documentation site that a build belongs to -/

namespace PublishGate

structure DocsSite where
  baseUrl : String := "https://protelis.github.io/wiki"
  betaSuffix : String := "-beta"
  deriving DecidableEq, Repr

namespace DocsSite

def url (site : DocsSite) (stable : Bool) : String :=
  if stable then site.baseUrl else site.baseUrl ++ site.betaSuffix

def urlFor (site : DocsSite) (v : BuildVersion) : String :=
  site.url v.isStable

end DocsSite

end PublishGate
