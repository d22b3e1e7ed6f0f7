import HtmlToLatex.FileSystem
import HtmlToLatex.Url.Parse

set_option autoImplicit false

/-! # Retrieving images

A fetcher answers a request for the content of a URL by storing it in a file, or says why it did
not. What it does may depend on the requests before and on the files. -/

namespace HtmlToLatex

/-- The reasons why an image is not retrieved. -/
inductive FetchError where
  /-- The source of the image is no absolute URL. -/
  | notAUrl (source message : String)
  /-- Retrieving is turned off. -/
  | disabled (url : String)
  /-- The transfer failed. -/
  | transport (url message : String)
  /-- The image could not be stored. -/
  | io (message : String)
  deriving Repr, BEq, DecidableEq, Inhabited

/-- The wording of a reason. -/
def FetchError.message : FetchError → String
  | .notAUrl source message => "'" ++ source ++ "' is not an absolute URL: " ++ message
  | .disabled url => "fetching disabled for " ++ url
  | .transport url message => "failed to fetch " ++ url ++ ": " ++ message
  | .io message => "IO error: " ++ message

/-- The content of `url` is to be stored at `destination`, whose directory is there. -/
structure FetchRequest where
  url : Url
  destination : Path
  deriving Repr, BEq, DecidableEq, Inhabited

/-- What came of a request. -/
structure FetchReply where
  outcome : Except FetchError Unit
  /-- The files afterwards. -/
  files : FileSystem
  /-- What the fetcher logs for debugging. -/
  messages : List String := []

/-- A fetcher sees the earlier requests, the request and the files. -/
abbrev Fetcher := List FetchRequest → FetchRequest → FileSystem → FetchReply

namespace Fetcher

/-- Retrieves nothing. -/
def offline : Fetcher := fun _ request files =>
  { outcome := .error (.disabled request.url.render), files }

/-- Fails every transfer for one reason. -/
def failing (message : String) : Fetcher := fun _ request files =>
  { outcome := .error (.transport request.url.render message), files }

/-- Hands requests for web addresses on to another fetcher and refuses other schemes. -/
def web (transfer : Fetcher) : Fetcher := fun earlier request files =>
  if ["http", "https"].contains request.url.scheme then transfer earlier request files
  else failing ("unsupported scheme '" ++ request.url.scheme ++ "'") earlier request files

end Fetcher
end HtmlToLatex
