import Literate.Text.Case

/-!
# Media types

What kind of data a file holds, told from its name.
-/

namespace Literate.Media

open Text

/-- The type of a file whose name says nothing. -/
def unknown : Text := "application/octet-stream".toList

/-- Types by extension. -/
def types : List (String × String) :=
  [("png", "image/png"), ("jpg", "image/jpeg"), ("jpeg", "image/jpeg"), ("jpe", "image/jpeg"),
   ("gif", "image/gif"), ("svg", "image/svg+xml"), ("bmp", "image/bmp"), ("ico", "image/vnd.microsoft.icon"),
   ("tif", "image/tiff"), ("tiff", "image/tiff"), ("avif", "image/avif"), ("heic", "image/heic"),
   ("heif", "image/heif"), ("ief", "image/ief"), ("ras", "image/x-cmu-raster"),
   ("pnm", "image/x-portable-anymap"), ("pbm", "image/x-portable-bitmap"),
   ("pgm", "image/x-portable-graymap"), ("ppm", "image/x-portable-pixmap"), ("rgb", "image/x-rgb"),
   ("xbm", "image/x-xbitmap"), ("xpm", "image/x-xpixmap"), ("xwd", "image/x-xwindowdump")]

/-- Extensions of compressed files, which keep the type of what they hold. -/
def compressed : List String := ["gz", "Z", "bz2", "xz", "br"]

/-- A name without its extension, and the extension; dots in front of the name do not count. -/
def splitExtension (name : Text) : Text × Text :=
  let dots := name.takeWhile (· == '.')
  let body := name.drop dots.length
  let extension := (body.reverse.takeWhile (· != '.')).reverse
  if extension.length = body.length then (name, [])
  else (dots ++ body.take (body.length - extension.length - 1), extension)

/-- The type of a file with a name.  Model of `mimetypes.guess_type` as
`renderer.Renderer._embed_image` calls it. -/
def typeOf (name : Text) : Text :=
  let (base, extension) := splitExtension name
  let extension :=
    if lower extension == "svgz".toList then "svg".toList
    else if compressed.any (·.toList == extension) then (splitExtension base).2
    else extension
  match types.find? fun e => e.1.toList == lower extension with
  | some (_, type) => type.toList
  | none => unknown

end Literate.Media
