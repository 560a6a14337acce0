/-!
# The scheme of a web server

A server is named by a URL that begins with `http://` or `https://`, in small letters.
-/

namespace Credentials.Http

/-- Whether a URL begins like one of a web server. -/
def hasWebScheme (s : String) : Bool :=
  "https://".toList.isPrefixOf s.toList || "http://".toList.isPrefixOf s.toList

end Credentials.Http
