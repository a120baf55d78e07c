import Metafile.Playback.Apply

/-! # Rendering

A document is rendered by playing its records on a new context. An error that concerns one record
is passed over; a fatal one ends the rendering.
-/
namespace Metafile

namespace Document

/-- Plays records until one fails fatally. -/
def playAll (c : Context) : List Record → Except Error Context
  | [] => .ok c
  | record :: rest =>
      match c.apply record with
      | (next, none) => playAll next rest
      | (next, some e) => if e.isFatal then .error e else playAll next rest

def render (d : Document) (options : RenderOptions) (fonts : FontLibrary) (rasterizer : Rasterizer) :
    Except Error Image := do
  let c ← Context.new d.header options fonts rasterizer
  (← playAll c d.records).finish

end Document

def renderBytes (data : Bytes) (options : RenderOptions) (fonts : FontLibrary)
    (rasterizer : Rasterizer) : Except Error Image := do
  (← Document.parse data).render options fonts rasterizer

inductive ImageFormat where
  | png | jpeg | gif | webp | pnm | tiff | tga | dds | bmp | ico | hdr | openExr | farbfeld | qoi
deriving DecidableEq, Repr

inductive EncodedPixels where
  | rgba (image : Image)
  | rgb (image : Image)

abbrev Encoder (α : Type) := ImageFormat → EncodedPixels → Except Error α

/-- Renders the document that some bytes hold and writes it in a format; one of the formats has no
alpha channel. -/
def convertBytes {α : Type} (encode : Encoder α) (data : Bytes) (format : ImageFormat)
    (fonts : FontLibrary) (rasterizer : Rasterizer) : Except Error α := do
  let image ← renderBytes data .default fonts rasterizer
  encode format (if format = .jpeg then .rgb image else .rgba image)

end Metafile
