import Mathlib.Data.List.Nodup
import Metafile.Config.Options
import Metafile.Proofs.CaseFolding

/-! # Fonts by name

The names of a font table have no order of their own: a table may be gone through in any. Whatever
the order, a family whose small letters are a name of the table has the file of that name. Where they
are not, only the letters A to Z are compared without their case, and the first name that agrees
counts. -/
namespace Metafile

theorem lookup_eq_some_iff_mem {entries : List (String × String)}
    (keyed : (entries.map Prod.fst).Nodup) {name value : String} :
    entries.lookup name = some value ↔ (name, value) ∈ entries := by
  induction entries with
  | nil => simp
  | cons head rest ih =>
    obtain ⟨absent, keyed⟩ := List.nodup_cons.mp keyed
    rw [List.lookup_cons, List.mem_cons]
    by_cases same : name = head.1
    · subst same
      rw [beq_self_eq_true]
      have elsewhere : (head.1, value) ∉ rest := fun member =>
        absent (List.mem_map.mpr ⟨_, member, rfl⟩)
      rw [or_iff_left elsewhere, Prod.ext_iff]
      simp [eq_comm]
    · rw [beq_eq_false_iff_ne.mpr same, ih keyed, or_iff_right]
      rintro rfl
      exact same rfl

theorem map_fst_replaceOrAppend {α : Type} (entries : List (String × α)) (key : String)
    (value : α) : (replaceOrAppend entries key value).map Prod.fst =
      if key ∈ entries.map Prod.fst then entries.map Prod.fst
      else entries.map Prod.fst ++ [key] := by
  have among : (entries.any fun entry => entry.1 == key) = true ↔ key ∈ entries.map Prod.fst := by
    simp
  unfold replaceOrAppend
  by_cases present : key ∈ entries.map Prod.fst
  · rw [if_pos (among.mpr present), if_pos present, List.map_map]
    refine List.map_congr_left fun entry _ => ?_
    by_cases same : entry.1 = key <;> simp [same]
  · rw [if_neg (mt among.mp present), if_neg present, List.map_append]
    rfl

theorem nodup_replaceOrAppend {α : Type} {entries : List (String × α)} {key : String} {value : α}
    (keyed : (entries.map Prod.fst).Nodup) :
    ((replaceOrAppend entries key value).map Prod.fst).Nodup := by
  rw [map_fst_replaceOrAppend]
  split
  · exact keyed
  · rename_i absent
    rw [← List.concat_eq_append]
    exact List.Nodup.concat absent keyed

namespace FontTable

variable {t t' : FontTable} {family family' file : String}

/-- The name that a family is looked up under. -/
def form (family : String) : String := lowercase (trimBlanks family)

def names (t : FontTable) : List String := t.files.map Prod.fst

def Keyed (t : FontTable) : Prop := t.names.Nodup

structure Reorders (t' t : FontTable) : Prop where
  files : t'.files.Perm t.files
  fallback : t'.fallback = t.fallback

/-- A file under a name without blanks around it that has some form. -/
def Registered (t : FontTable) (form file : String) : Prop :=
  ∃ name, (name, file) ∈ t.files ∧ trimBlanks name = name ∧ lowercase name = form

def agreesWith (family : String) (entry : String × String) : Bool :=
  agreesInAscii entry.1 (trimBlanks family)

def Agrees (t : FontTable) (family file : String) : Prop :=
  ∃ name, (name, file) ∈ t.files ∧ agreesWith family (name, file) = true

/-- The files that a family may have, in one order or another. -/
def Answers (t : FontTable) (family file : String) : Prop :=
  (form family, file) ∈ t.files ∨
    form family ∉ t.names ∧
      (t.Agrees family file ∨ (∀ other, ¬ t.Agrees family other) ∧ file = t.fallback)

theorem mem_names_iff {name : String} : name ∈ t.names ↔ ∃ file, (name, file) ∈ t.files := by
  simp [names]

theorem registered_of_form (listed : (form family, file) ∈ t.files) :
    t.Registered (form family) file :=
  ⟨form family, listed, trimBlanks_lowercase (trimmed_trimBlanks family), lowercase_lowercase _⟩

theorem Agrees.registered (agrees : t.Agrees family file) : t.Registered (form family) file := by
  obtain ⟨name, listed, same⟩ := agrees
  have trimmed := trimmed_of_agrees same (trimmed_trimBlanks family)
  exact ⟨name, listed, trimBlanks_of_trimmed trimmed, lowercase_of_agrees same⟩

theorem Keyed.reorder (keyed : t.Keyed) (order : t'.Reorders t) : t'.Keyed :=
  (order.files.map Prod.fst).nodup_iff.mpr keyed

theorem Reorders.names_iff (order : t'.Reorders t) {name : String} :
    name ∈ t'.names ↔ name ∈ t.names := (order.files.map Prod.fst).mem_iff

theorem resolve_of_listed (keyed : t.Keyed) (listed : (form family, file) ∈ t.files) :
    t.resolve family = file := by
  have found := (lookup_eq_some_iff_mem keyed).mpr listed
  unfold form at found
  unfold resolve
  dsimp only
  rw [found]

theorem resolve_of_unlisted (absent : form family ∉ t.names) :
    t.resolve family =
      match t.files.find? (agreesWith family) with
      | some (_, file) => file
      | none => t.fallback := by
  have missed : t.files.lookup (form family) = none := by
    rw [List.lookup_eq_none_iff]
    intro entry member
    refine bne_iff_ne.mpr ?_
    intro same
    exact absent (List.mem_map.mpr ⟨entry, member, same.symm⟩)
  unfold form at missed
  unfold resolve
  dsimp only
  rw [missed]
  rfl

theorem answers_resolve (keyed : t.Keyed) (order : t'.Reorders t) (family : String) :
    t.Answers family (t'.resolve family) := by
  by_cases listed : form family ∈ t.names
  · obtain ⟨file, listed⟩ := mem_names_iff.mp listed
    left
    rw [resolve_of_listed (keyed.reorder order) (order.files.mem_iff.mpr listed)]
    exact listed
  · refine .inr ⟨listed, ?_⟩
    rw [resolve_of_unlisted (mt order.names_iff.mp listed)]
    split
    · rename_i name file found
      left
      have member := List.mem_of_find?_eq_some found
      exact ⟨name, order.files.mem_iff.mp member, List.find?_some found⟩
    · rename_i missed
      refine .inr ⟨?_, order.fallback⟩
      rintro other ⟨name, member, agrees⟩
      exact List.find?_eq_none.mp missed _ (order.files.mem_iff.mpr member) agrees

/-- The order may start with any of the names that agree. -/
theorem exists_order_of_answers (keyed : t.Keyed) (answers : t.Answers family file) :
    ∃ t' : FontTable, t'.Reorders t ∧ t'.resolve family = file := by
  rcases answers with listed | ⟨unlisted, ⟨name, member, agrees⟩ | ⟨other, rfl⟩⟩
  · exact ⟨t, ⟨.refl _, rfl⟩, resolve_of_listed keyed listed⟩
  · let first : FontTable := ⟨(name, file) :: t.files.erase (name, file), t.fallback⟩
    have order : first.Reorders t := ⟨(List.perm_cons_erase member).symm, rfl⟩
    refine ⟨first, order, ?_⟩
    have found : first.files.find? (agreesWith family) = some (name, file) :=
      List.find?_cons_of_pos agrees
    rw [resolve_of_unlisted (mt order.names_iff.mp unlisted), found]
  · refine ⟨t, ⟨.refl _, rfl⟩, ?_⟩
    have missed : t.files.find? (agreesWith family) = none :=
      List.find?_eq_none.mpr fun entry member agrees => other entry.2 ⟨entry.1, member, agrees⟩
    rw [resolve_of_unlisted unlisted, missed]

theorem registered_of_answers (answers : t.Answers family file) :
    t.Registered (form family) file ∨
      (∀ other, ¬ t.Agrees family other) ∧ file = t.fallback := by
  rcases answers with listed | ⟨-, agrees | missed⟩
  · exact .inl (registered_of_form listed)
  · exact .inl agrees.registered
  · exact .inr missed

theorem answers_iff_of_unregistered (unregistered : ∀ other, ¬ t.Registered (form family) other) :
    t.Answers family file ↔ file = t.fallback := by
  constructor
  · intro answers
    rcases registered_of_answers answers with registered | ⟨-, same⟩
    · exact absurd registered (unregistered file)
    · exact same
  · rintro rfl
    refine .inr ⟨?_, .inr ⟨fun other agrees => unregistered other agrees.registered, rfl⟩⟩
    intro listed
    obtain ⟨file, listed⟩ := mem_names_iff.mp listed
    exact unregistered file (registered_of_form listed)

theorem resolve_of_agrees (agrees : agreesInAscii (trimBlanks family) (trimBlanks family') = true) :
    t.resolve family = t.resolve family' := by
  have same : (trimBlanks family).toList.map Char.toLower =
      (trimBlanks family').toList.map Char.toLower := beq_iff_eq.mp agrees
  have lowered := lowercase_of_agrees agrees
  have compared : ∀ name, agreesInAscii name (trimBlanks family) =
      agreesInAscii name (trimBlanks family') := by
    intro name
    unfold agreesInAscii
    rw [same]
  unfold resolve
  simp only [lowered, compared]

/-! ## Tables that know their names in small letters -/

/-- A name without blanks around it is also there in small letters. -/
def Covered (t : FontTable) : Prop :=
  ∀ name ∈ t.names, trimBlanks name = name → lowercase name ∈ t.names

structure ByForm (t : FontTable) : Prop where
  alike : ∀ t' t'' : FontTable, t'.Reorders t → t''.Reorders t → ∀ family family',
    form family = form family' → t'.resolve family = t''.resolve family'
  registered : ∀ family, (∃ file, t.Registered (form family) file) →
    t.Registered (form family) (t.resolve family)
  fallback : ∀ family, (∀ file, ¬ t.Registered (form family) file) →
    t.resolve family = t.fallback

theorem Covered.listed (covered : t.Covered) (registered : t.Registered (form family) file) :
    form family ∈ t.names := by
  obtain ⟨name, listed, trimmed, lowered⟩ := registered
  rw [← lowered]
  exact covered name (mem_names_iff.mpr ⟨file, listed⟩) trimmed

theorem byForm_of_covered (keyed : t.Keyed) (covered : t.Covered) : t.ByForm := by
  have alone : t.Reorders t := ⟨.refl _, rfl⟩
  have unregistered : ∀ t' : FontTable, t'.Reorders t → ∀ family,
      (∀ file, ¬ t.Registered (form family) file) → t'.resolve family = t.fallback :=
    fun t' order family none =>
      (answers_iff_of_unregistered none).mp (answers_resolve keyed order family)
  have listed : ∀ t' : FontTable, t'.Reorders t → ∀ family file, (form family, file) ∈ t.files →
      t'.resolve family = file := fun t' order family file member =>
    resolve_of_listed (keyed.reorder order) (order.files.mem_iff.mpr member)
  constructor
  · intro t' t'' order order' family family' same
    by_cases known : form family ∈ t.names
    · obtain ⟨file, member⟩ := mem_names_iff.mp known
      rw [listed t' order family file member, listed t'' order' family' file (same ▸ member)]
    · have none : ∀ file, ¬ t.Registered (form family) file := fun file registered =>
        known (covered.listed registered)
      rw [unregistered t' order family none, unregistered t'' order' family' (same ▸ none)]
  · rintro family ⟨file, registered⟩
    obtain ⟨file, member⟩ := mem_names_iff.mp (covered.listed registered)
    rw [listed t alone family file member]
    exact registered_of_form member
  · exact unregistered t alone

inductive Made : FontTable → Prop
  | default : Made .default
  | empty (fallback : String) : Made (.empty fallback)
  | withFont {t : FontTable} (made : Made t) (family file : String) : Made (t.withFont family file)

theorem names_withFont (t : FontTable) (family file : String) :
    (t.withFont family file).names =
      if lowercase family ∈ t.names then t.names else t.names ++ [lowercase family] :=
  map_fst_replaceOrAppend t.files (lowercase family) file

theorem lowercase_default : ∀ name ∈ default.names, lowercase name = name := by
  have apart : ∀ name ∈ default.names,
      bitsOf (name.toList.map Char.toNat) &&& bitsOf Letter.unsettled = 0 := by decide +kernel
  intro name member
  exact lowercase_of_small (Letter.isSmall_of_apart (apart name member))

theorem Made.keyed (made : t.Made) : t.Keyed := by
  induction made with
  | default =>
    have apart : (FontTable.default.files.map Prod.fst).Nodup := by decide +kernel
    exact apart
  | empty fallback => exact List.nodup_nil
  | withFont made family file ih => exact nodup_replaceOrAppend ih

theorem Made.small (made : t.Made) : ∀ name ∈ t.names, lowercase name = name := by
  induction made with
  | default => exact lowercase_default
  | empty fallback => nofun
  | @withFont t made family file ih =>
    intro name member
    rw [names_withFont] at member
    split at member
    · exact ih name member
    · rcases List.mem_append.mp member with before | last
      · exact ih name before
      · rw [List.mem_singleton.mp last, lowercase_lowercase]

theorem Made.covered (made : t.Made) : t.Covered := by
  intro name member _
  rw [made.small name member]
  exact member

/-! ## Tables that are read -/

theorem nodup_of_foldlM {members : List (Option String × JsonValue)}
    {entries files : List (String × String)} (keyed : (entries.map Prod.fst).Nodup)
    (read : members.foldlM (fun entries (name, value) => do
      return replaceOrAppend entries (← name) (← JsonValue.text? value)) entries = some files) :
    (files.map Prod.fst).Nodup := by
  induction members generalizing entries with
  | nil =>
    cases read
    exact keyed
  | cons member rest ih =>
    obtain ⟨next, stepped, read⟩ := Option.bind_eq_some_iff.mp read
    obtain ⟨name, -, stepped⟩ := Option.bind_eq_some_iff.mp stepped
    obtain ⟨value, -, stepped⟩ := Option.bind_eq_some_iff.mp stepped
    cases stepped
    exact ih (nodup_replaceOrAppend keyed) read

theorem nodup_of_textTable? {json : JsonValue} {files : List (String × String)}
    (read : json.textTable? = some files) : (files.map Prod.fst).Nodup := by
  cases json with
  | object members =>
    have none : (([] : List (String × String)).map Prod.fst).Nodup := List.nodup_nil
    exact nodup_of_foldlM none read
  | _ => cases read

theorem keyed_of_parse? {text : String} (read : parse? text = some t) : t.Keyed := by
  obtain ⟨json, -, read⟩ := Option.bind_eq_some_iff.mp read
  obtain ⟨fields, -, read⟩ := Option.bind_eq_some_iff.mp read
  obtain ⟨files, given, read⟩ := Option.bind_eq_some_iff.mp read
  obtain ⟨fallback, -, read⟩ := Option.bind_eq_some_iff.mp read
  cases read
  change (files.map Prod.fst).Nodup
  unfold JsonValue.fieldOr at given
  split at given
  · cases given
    exact Made.default.keyed
  · exact nodup_of_textTable? given

/-- In one order or another a family has the file of its form, if that is a name of the table, else
any file whose name agrees with it in ASCII, and else the fallback. Families that agree in ASCII
have the same file, and one whose form nothing is registered under has the fallback. In a table that
knows its names in small letters, as all tables do that are made without a text to read them from,
the form alone decides. -/
theorem resolve_answers (keyed : t.Keyed) :
    (∀ family file, (∃ t' : FontTable, t'.Reorders t ∧ t'.resolve family = file) ↔
      t.Answers family file) ∧
    (∀ family file, t.Answers family file → t.Registered (form family) file ∨
      (∀ other, ¬ t.Agrees family other) ∧ file = t.fallback) ∧
    (∀ family, (∀ other, ¬ t.Registered (form family) other) →
      ∀ file, t.Answers family file ↔ file = t.fallback) ∧
    (∀ t' : FontTable, t'.Reorders t → ∀ family family',
      agreesInAscii (trimBlanks family) (trimBlanks family') = true →
        t'.resolve family = t'.resolve family') ∧
    (t.Made ∨ t.Covered → t.ByForm) := by
  refine ⟨fun family file => ⟨?_, exists_order_of_answers keyed⟩,
    fun family file => registered_of_answers, fun family none file =>
      answers_iff_of_unregistered none, fun t' order family family' => resolve_of_agrees, ?_⟩
  · rintro ⟨t', order, rfl⟩
    exact answers_resolve keyed order family
  · rintro (made | covered)
    · exact byForm_of_covered keyed made.covered
    · exact byForm_of_covered keyed covered

def twice : FontTable := ⟨[("Arial", "a.ttf"), ("ARIAL", "b.ttf")], "c.ttf"⟩

theorem resolve_answers_twice : twice.Keyed ∧
    (∃ t' : FontTable, t'.Reorders twice ∧ t'.resolve " arial" = "a.ttf") ∧
    (∃ t' : FontTable, t'.Reorders twice ∧ t'.resolve " arial" = "b.ttf") := by
  have keyed : twice.Keyed := by
    have apart : (twice.files.map Prod.fst).Nodup := by decide +kernel
    exact apart
  have unlisted : form " arial" ∉ ["Arial", "ARIAL"] := by decide +kernel
  obtain ⟨answers, -⟩ := resolve_answers keyed
  refine ⟨keyed, (answers _ _).mpr (.inr ⟨unlisted, .inl ⟨"Arial", ?_, ?_⟩⟩),
    (answers _ _).mpr (.inr ⟨unlisted, .inl ⟨"ARIAL", ?_, ?_⟩⟩)⟩
  all_goals decide +kernel

/-- A name with letters beyond A to Z that is not in small letters. -/
def accented : FontTable := ⟨[("Émigré", "emigre.ttf")], "arial.ttf"⟩

theorem not_byForm_accented :
    accented.Keyed ∧ form "émigré" = form "Émigré" ∧
    accented.Registered (form "émigré") "emigre.ttf" ∧
    accented.resolve "Émigré" = "emigre.ttf" ∧ accented.resolve "émigré" = "arial.ttf" := by
  have same : form "émigré" = form "Émigré" := by decide +kernel
  have trimmed : trimBlanks "Émigré" = "Émigré" := by decide +kernel
  have lowered : lowercase "Émigré" = form "émigré" := by decide +kernel
  have listed : ("Émigré", "emigre.ttf") ∈ accented.files := List.mem_singleton_self _
  exact ⟨List.nodup_singleton _, same, ⟨"Émigré", listed, trimmed, lowered⟩, by decide +kernel,
    by decide +kernel⟩

end FontTable

end Metafile
