/-! # Documentation sites as sources of pages -/

namespace PublishGate

inductive FetchError where
  | unreachable (url : String)
  | request (url cause : String)
  | status (url code : String)
  | body (cause : String)
  deriving DecidableEq, Repr

def FetchError.message : FetchError → String
  | .unreachable url => "site unreachable: " ++ url
  | .request url cause => "failed to send request to " ++ url ++ ": " ++ cause
  | .status url code => "unexpected status while fetching " ++ url ++ ": " ++ code
  | .body cause => "failed to read site response body: " ++ cause

structure Site where
  url : String
  page : Except FetchError String

namespace Site

def canned (url page : String) : Site := ⟨url, .ok page⟩

def unreachable (url : String) : Site := ⟨url, .error (.unreachable url)⟩

end Site

end PublishGate
