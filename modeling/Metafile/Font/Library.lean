import Metafile.Font.Face
import Metafile.Text.Case

/-! # Fonts by family

A resolver names the file of a font family, whether there is such a file or not. A library loads
files from a directory, each at most once: what was found is kept, and so is that nothing was.
-/
namespace Metafile

def replaceOrAppend {α : Type} (entries : List (String × α)) (key : String) (value : α) :
    List (String × α) :=
  if entries.any (·.1 == key) then
    entries.map fun (k, v) => if k = key then (k, value) else (k, v)
  else entries ++ [(key, value)]

structure FontTable where
  files : List (String × String)
  fallback : String
deriving DecidableEq, Repr

namespace FontTable

def default : FontTable where
  files :=
    [("arial", "arial.ttf"), ("calibri", "calibri.ttf"), ("cambria", "cambria.ttc"),
     ("courier new", "cour.ttf"), ("segoe ui", "segoeui.ttf"), ("tahoma", "tahoma.ttf"),
     ("times new roman", "times.ttf"), ("verdana", "verdana.ttf")]
  fallback := "arial.ttf"

instance : Inhabited FontTable := ⟨default⟩

def empty (fallback : String) : FontTable := ⟨[], fallback⟩

def withFont (t : FontTable) (family file : String) : FontTable :=
  { t with files := replaceOrAppend t.files (lowercase family) file }

/-- The file of a family. Its name in small letters is looked up first; then any name that agrees
in ASCII, for tables whose names are not in small letters. -/
def resolve (t : FontTable) (family : String) : String :=
  let family := trimBlanks family
  match t.files.lookup (lowercase family) with
  | some file => file
  | none =>
      match t.files.find? fun (name, _) => agreesInAscii name family with
      | some (_, file) => file
      | none => t.fallback

end FontTable

abbrev FontResolver := String → String

abbrev FontDirectory := List (String × Bytes)

structure FontLibrary where
  directory : Option FontDirectory
  resolver : FontResolver
  reader : FontReader
  /-- What is known about files: their contents, or that they are of no use. -/
  cache : List (String × Option Bytes)
  requests : List String

namespace FontLibrary

def new (directory : Option FontDirectory) (resolver : FontResolver) (reader : FontReader) :
    FontLibrary :=
  ⟨directory, resolver, reader, [], []⟩

def readFont (lib : FontLibrary) (file : String) : Option Bytes := do
  let directory ← lib.directory
  let data ← directory.lookup file
  match lib.reader data with
  | .ok _ => some data
  | .error _ => none

/-- The font file of a family, if it can be used, and the library with what it now knows. -/
def load (lib : FontLibrary) (family : String) : Option Bytes × FontLibrary :=
  let file := lib.resolver family
  let lib := { lib with requests := family :: lib.requests }
  match lib.cache.lookup file with
  | some known => (known, lib)
  | none =>
      let found := lib.readFont file
      (found, { lib with cache := (file, found) :: lib.cache })

end FontLibrary

end Metafile
