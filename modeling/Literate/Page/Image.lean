import Literate.Files.FileTree
import Literate.Html.Tree
import Literate.Page.Asset
import Literate.Page.Media
import Literate.Text.Base64
import Literate.Text.Utf8

/-!
# Images inside a page

A page stands alone: the images it shows that are files become part of it.

* `imageSources` lists the images of a fragment.
* `ImageFile.find` says what an image source comes to.
* `embedIn` puts data in place of sources.
-/

namespace Literate.Html

/-- The name of an image element. -/
def imageName : Text := ['i', 'm', 'g']

/-- The name of the attribute that says where an image is. -/
def sourceName : Text := ['s', 'r', 'c']

/-- The source of an element, if it is an image that has one. -/
def imageSource? (name : Text) (attrs : Attributes) : Option Text :=
  if name = imageName then attrs.lookup sourceName else none

/-- The sources of the images of a fragment, in document order. -/
def imageSources (ns : List Node) : List Text :=
  (Node.elementsIn ns).filterMap fun (name, attrs) => imageSource? name attrs

/-- The attributes of an element with the data of its image in place of its source. -/
def embedAttrs (data : Text → Option Text) (name : Text) (attrs : Attributes) : Attributes :=
  match (imageSource? name attrs).bind data with
  | some value => Attributes.set sourceName value attrs
  | none => attrs

mutual

/-- Puts data in place of the sources of the images at a node.  Model of the second loop of
`renderer.Renderer._post_process`. -/
def embed (data : Text → Option Text) : Node → Node
  | .element name attrs children =>
    .element name (embedAttrs data name attrs) (embedIn data children)
  | n => n

/-- Puts data in place of the sources of the images of a fragment. -/
def embedIn (data : Text → Option Text) : List Node → List Node
  | [] => []
  | n :: rest => embed data n :: embedIn data rest

end

end Literate.Html

namespace Literate

/-- What the source of an image comes to. -/
inductive ImageFile
  /-- It is no file: a remote address or data. -/
  | elsewhere
  | missing
  | found (mediaType : Text) (content : Bytes)
  deriving DecidableEq

/-- Why an image cannot be looked for. -/
inductive ImageError
  | path (e : PathError)
  | file (e : OsError)
  deriving DecidableEq, Repr

namespace ImageFile

/-- Looks for the file that an image source points to.  Model of `renderer.Renderer._embed_image` up
to reading the file. -/
def find (tree : FileTree) (cwd : Location) (homes : Homes) (base : FilePath) (src : Text) :
    Except ImageError ImageFile := do
  match ← (Asset.resolve cwd homes base src).mapError .path with
  | none => pure elsewhere
  | some l =>
    let p := FilePath.ofLocation l
    if ← (tree.isFile cwd p).mapError .file then
      let content ← (tree.read cwd p).mapError .file
      pure (found (Media.typeOf p.fileName) content)
    else pure missing

/-- The data that stands for an image file.  Model of the answer of
`renderer.Renderer._embed_image`. -/
def data? : ImageFile → Option Text
  | found mediaType content =>
    some ("data:".toList ++ mediaType ++ ";base64,".toList ++ Base64.encode (Utf8.byteList content))
  | _ => none

end ImageFile

end Literate
