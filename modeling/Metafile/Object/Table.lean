import Metafile.Bitmap.Dib
import Metafile.Error
import Metafile.Object.Description

/-! # The object table

Objects are stored under handles, which never include zero, and one object of each kind may be
selected. Deleting an object also ends its selection.
-/
namespace Metafile

inductive GraphicsObject where
  | pen (pen : PenDescription)
  | extPen (pen : ExtPenDescription)
  | brush (brush : BrushDescription)
  | font (font : FontDescription)
  | palette (palette : Palette)
  | bitmap (dib : Dib)
deriving DecidableEq, Repr

inductive ObjectKind where
  | pen
  | brush
  | font
  | palette
deriving DecidableEq, Repr

def GraphicsObject.kind : GraphicsObject → ObjectKind
  | pen _ | extPen _ => .pen
  | brush _ | bitmap _ => .brush
  | font _ => .font
  | palette _ => .palette

structure ObjectTable where
  /-- The objects with their handles, no handle twice. -/
  entries : List (UInt32 × GraphicsObject)
  selection : ObjectKind → Option UInt32

namespace ObjectTable

def empty : ObjectTable := ⟨[], fun _ => none⟩

instance : Inhabited ObjectTable := ⟨empty⟩

def handles (t : ObjectTable) : List UInt32 := t.entries.map (·.1)

def size (t : ObjectTable) : Nat := t.entries.length

def contains (t : ObjectTable) (handle : UInt32) : Bool := t.handles.contains handle

def get? (t : ObjectTable) (handle : UInt32) : Option GraphicsObject :=
  t.entries.lookup handle

def get (t : ObjectTable) (handle : UInt32) : Except Error GraphicsObject :=
  match t.get? handle with
  | some object => .ok object
  | none => .error (.unknownHandle handle)

def add (t : ObjectTable) (handle : UInt32) (object : GraphicsObject) : ObjectTable :=
  { t with entries := (handle, object) :: t.entries }

/-- The smallest positive handle not in use; the largest of all when there is none. -/
def freeHandle (t : ObjectTable) : UInt32 :=
  let candidates := (List.range (min (t.size + 1) (UInt32.size - 1))).map fun n => UInt32.ofNat (n + 1)
  (candidates.find? fun handle => !t.contains handle).getD (UInt32.ofNat (UInt32.size - 1))

def create (t : ObjectTable) (object : GraphicsObject) : UInt32 × ObjectTable :=
  let handle := t.freeHandle
  (handle, { t with entries := (handle, object) :: t.entries.filter (·.1 != handle) })

/-- Stores an object under a given handle. Where it stands in the file is not known here. -/
def insert (t : ObjectTable) (handle : UInt32) (object : GraphicsObject) : Except Error ObjectTable :=
  if handle = 0 then .error (.unknownHandle 0)
  else if t.contains handle then .error (.duplicateHandle handle 0)
  else .ok (t.add handle object)

def delete (t : ObjectTable) (handle : UInt32) : Except Error (GraphicsObject × ObjectTable) := do
  let object ← t.get handle
  return (object,
    { entries := t.entries.filter (·.1 != handle)
      selection := fun kind => (t.selection kind).filter (· != handle) })

def select (t : ObjectTable) (handle : UInt32) : Except Error (ObjectKind × ObjectTable) := do
  let object ← t.get handle
  return (object.kind,
    { t with selection := fun kind => if kind = object.kind then some handle else t.selection kind })

def deselect (t : ObjectTable) (kind : ObjectKind) : ObjectTable :=
  { t with selection := fun k => if k = kind then none else t.selection k }

def selected? (t : ObjectTable) (kind : ObjectKind) : Option GraphicsObject :=
  (t.selection kind).bind t.get?

end ObjectTable

end Metafile
