import Mathlib.Data.List.Forall2
import ToolSchema.Manifest

/-!
# Files relative to a base

A path is joined to a base by putting something before it: nothing if it is absolute, and else what
the paths of all files in that directory start with (`Path.leading`). A directory that is itself
relative to another one has what comes of both (`Path.leading_join`), so it makes no difference
whether a path is joined to the one and then to the other or to their join (`Path.join_join`), with
all the cases that slashes at ends and empty paths make.

Targets and manifests only pass this on to their locations (`Manifest.resolve_acts`). What is left
alone is said by relating a target to what it has become (`Target.Moved`): the same target, but for
the files of its locations.
-/

namespace ToolSchema

/-! ### Paths -/

namespace Path

variable {a b base p : Path}

/-- What the paths of files in this directory start with: its own path, with a slash at the end. The
empty path stands for the directory that relative paths are in anyway. -/
def leading (base : Path) : String :=
  if base.text = "" ∨ base.text.toList.getLast? = some '/' then base.text else base.text ++ "/"

theorem join_of_isAbsolute (h : p.isAbsolute = true) (base : Path) : base.join p = p := by
  rw [join, h, Bool.true_or, if_pos rfl]

/-- **A relative path is joined by what the directory leads with.** -/
theorem join_of_isRelative (h : p.isAbsolute = false) (base : Path) :
    base.join p = ⟨base.leading ++ p.text⟩ := by
  rw [join, leading, h, Bool.false_or]
  by_cases hempty : base.text = ""
  · simp [hempty]
  · rw [if_neg (by simpa using hempty)]
    by_cases hslash : base.text.toList.getLast? = some '/'
    · rw [if_pos (by simpa using hslash), if_pos (.inr hslash)]
    · rw [if_neg (by simpa using hslash), if_neg (by simp [hempty, hslash])]

/-- What stands behind a directory does not change what its path starts with. -/
theorem head?_leading_append (h : base.text ≠ "") (s : String) :
    (base.leading ++ s).toList.head? = base.text.toList.head? := by
  have hne : base.text.toList ≠ [] := by simpa using h
  obtain ⟨c, cs, hcs⟩ := List.exists_cons_of_ne_nil hne
  rw [leading]
  split <;> simp [hcs]

/-- **A joined path is absolute** if one of the two was. -/
theorem isAbsolute_join (base p : Path) :
    (base.join p).isAbsolute = (base.isAbsolute || p.isAbsolute) := by
  rcases hp : p.isAbsolute with - | -
  · rw [join_of_isRelative hp, Bool.or_false]
    by_cases hempty : base.text = ""
    · have hbase : base.isAbsolute = false := by simp [isAbsolute, hempty]
      have hjoin : base.leading ++ p.text = p.text := by simp [leading, hempty]
      rw [hbase, hjoin]
      exact hp
    · rw [isAbsolute, head?_leading_append hempty]
      rfl
  · rw [join_of_isAbsolute hp, hp, Bool.or_true]

/-- A directory whose path has its slash already leads with the same. -/
theorem leading_leading (a : Path) : leading ⟨a.leading⟩ = a.leading := by
  by_cases h : a.text = "" ∨ a.text.toList.getLast? = some '/'
  · have ha : a.leading = a.text := if_pos h
    rw [ha]
    exact ha
  · have ha : a.leading = a.text ++ "/" := if_neg h
    rw [ha]
    exact if_pos (.inr (by simp))

/-- **Directories inside each other**: the inner one leads with what the outer one does, and then
with its own. -/
theorem leading_join (h : b.isAbsolute = false) (a : Path) :
    (a.join b).leading = a.leading ++ b.leading := by
  rw [join_of_isRelative h]
  by_cases hempty : b.text = ""
  · -- the inner directory is the outer one
    have hb : b.leading = "" := by simp [leading, hempty]
    rw [hb, hempty, String.append_empty, leading_leading]
  · have hne : b.text.toList ≠ [] := by simpa using hempty
    have hlast : (a.leading ++ b.text).toList.getLast? = b.text.toList.getLast? := by
      rw [String.toList_append, List.getLast?_append_of_ne_nil _ hne]
    rw [leading, hlast, leading.eq_def b]
    by_cases hslash : b.text.toList.getLast? = some '/'
    · rw [if_pos (.inr hslash), if_pos (.inr hslash)]
    · rw [if_neg (by simp [hempty, hslash]), if_neg (by simp [hempty, hslash]),
        String.append_assoc]

/-- **Joining one directory after the other** is joining their join. -/
theorem join_join (a b p : Path) : a.join (b.join p) = (a.join b).join p := by
  rcases hp : p.isAbsolute with - | -
  · rcases hb : b.isAbsolute with - | -
    · have hinner : (b.join p).isAbsolute = false := by rw [isAbsolute_join, hb, hp]; rfl
      rw [join_of_isRelative hinner, join_of_isRelative hp b, join_of_isRelative hp (a.join b),
        leading_join hb, String.append_assoc]
    · have hinner : (b.join p).isAbsolute = true := by rw [isAbsolute_join, hb, Bool.true_or]
      rw [join_of_isAbsolute hinner, join_of_isAbsolute hb]
  · rw [join_of_isAbsolute hp, join_of_isAbsolute hp, join_of_isAbsolute hp]

end Path

/-! ### Moved files -/

section Moved

variable {R : Path → Path → Prop}

/-- **The same documentation, but for the file of a location.** -/
inductive DocSource.Moved (R : Path → Path → Prop) : DocSource → DocSource → Prop
  | none : Moved R .none .none
  | inline (text : String) : Moved R (.inline text) (.inline text)
  | location {file file' : Path} (line : UInt32) (h : R file file') :
    Moved R (.location ⟨file, line⟩) (.location ⟨file', line⟩)

/-- The same function, but for the file of its documentation. -/
structure Callable.Moved (R : Path → Path → Prop) (c c' : Callable) : Prop where
  name : c'.name = c.name
  params : c'.params = c.params
  docs : c.docs.Moved R c'.docs

/-- The same class, but for the files of its documentation and of its constructor's. -/
structure ClassTarget.Moved (R : Path → Path → Prop) (c c' : ClassTarget) : Prop where
  name : c'.name = c.name
  docs : c.docs.Moved R c'.docs
  constructor : Option.Rel (Callable.Moved R) c.constructor c'.constructor

/-- **The same target, but for the files of its documentation.** -/
inductive Target.Moved (R : Path → Path → Prop) : Target → Target → Prop
  | function {c c' : Callable} (h : c.Moved R c') : Moved R (.function c) (.function c')
  | classType {c c' : ClassTarget} (h : c.Moved R c') : Moved R (.classType c) (.classType c')

theorem DocSource.Moved.exists_file {s s' : DocSource} (h : s.Moved R s') {l : Location}
    (hl : l ∈ s'.locations) : ∃ p, R p l.file := by
  cases h with
  | none => exact nomatch hl
  | inline => exact nomatch hl
  | location line h =>
    obtain rfl := List.mem_singleton.1 hl
    exact ⟨_, h⟩

/-- **Whatever location a target has, it was moved there**: its own or that of a constructor. -/
theorem Target.Moved.exists_file {t t' : Target} (h : t.Moved R t') {l : Location}
    (hl : l ∈ t'.locations) : ∃ p, R p l.file := by
  cases h with
  | function h => exact h.docs.exists_file hl
  | @classType c c' h =>
    obtain ⟨name, docs, constructor⟩ := c
    obtain ⟨name', docs', constructor'⟩ := c'
    have hconstructor : Option.Rel (Callable.Moved R) constructor constructor' := h.constructor
    rcases List.mem_append.1 hl with hl | hl
    · exact h.docs.exists_file hl
    · cases hconstructor with
      | none => exact nomatch hl
      | some hmoved => exact hmoved.docs.exists_file hl

end Moved

/-! ### Targets -/

theorem Location.resolve_resolve (a b : Path) (l : Location) :
    (l.resolve b).resolve a = l.resolve (a.join b) :=
  congrArg (Location.mk · l.line) (Path.join_join a b l.file)

namespace DocSource

theorem resolve_resolve (a b : Path) (s : DocSource) :
    (s.resolve b).resolve a = s.resolve (a.join b) := by
  cases s with
  | none => rfl
  | inline text => rfl
  | location l => exact congrArg location (l.resolve_resolve a b)

theorem moved_resolve (base : Path) (s : DocSource) :
    s.Moved (fun p q ↦ q = base.join p) (s.resolve base) := by
  cases s with
  | none => exact .none
  | inline text => exact .inline text
  | location l => exact .location l.line rfl

end DocSource

namespace Callable

theorem resolve_resolve (a b : Path) (c : Callable) :
    (c.resolve b).resolve a = c.resolve (a.join b) :=
  congrArg (Callable.mk c.name c.params) (c.docs.resolve_resolve a b)

theorem moved_resolve (base : Path) (c : Callable) :
    c.Moved (fun p q ↦ q = base.join p) (c.resolve base) :=
  ⟨rfl, rfl, c.docs.moved_resolve base⟩

end Callable

namespace ClassTarget

theorem resolve_resolve (a b : Path) (c : ClassTarget) :
    (c.resolve b).resolve a = c.resolve (a.join b) := by
  have hconstructor : (c.constructor.map (Callable.resolve b)).map (Callable.resolve a) =
      c.constructor.map (Callable.resolve (a.join b)) := by
    rw [Option.map_map]
    exact congrArg (Option.map · c.constructor) (funext (Callable.resolve_resolve a b))
  exact congrArg₂ (ClassTarget.mk c.name) (c.docs.resolve_resolve a b) hconstructor

theorem moved_resolve (base : Path) (c : ClassTarget) :
    c.Moved (fun p q ↦ q = base.join p) (c.resolve base) := by
  refine ⟨rfl, c.docs.moved_resolve base, ?_⟩
  show Option.Rel _ c.constructor (c.constructor.map (Callable.resolve base))
  rcases c.constructor with - | constructor
  · exact .none
  · exact .some (constructor.moved_resolve base)

end ClassTarget

namespace Target

theorem resolve_resolve (a b : Path) (t : Target) :
    (t.resolve b).resolve a = t.resolve (a.join b) := by
  cases t with
  | function c => exact congrArg function (c.resolve_resolve a b)
  | classType c => exact congrArg classType (c.resolve_resolve a b)

/-- **A target is moved by joining**, and nothing else happens to it. -/
theorem moved_resolve (base : Path) (t : Target) :
    t.Moved (fun p q ↦ q = base.join p) (t.resolve base) := by
  cases t with
  | function c => exact .function (c.moved_resolve base)
  | classType c => exact .classType (c.moved_resolve base)

end Target

/-! ### Manifests -/

namespace Manifest

theorem resolve_resolve (a b : Path) (m : Manifest) :
    (m.resolve b).resolve a = m.resolve (a.join b) := by
  show Manifest.mk ((m.targets.map (Target.resolve b)).map (Target.resolve a)) = _
  rw [List.map_map]
  exact congrArg (fun f ↦ Manifest.mk (m.targets.map f)) (funext (Target.resolve_resolve a b))

/-- The targets of a manifest are moved one by one. -/
theorem moved_resolve (base : Path) (m : Manifest) :
    List.Forall₂ (Target.Moved fun p q ↦ q = base.join p) m.targets (m.resolve base).targets :=
  List.forall₂_map_right_iff.2 (List.forall₂_same.2 fun t _ ↦ t.moved_resolve base)

/-- **Resolving is an action of joining.**

* Resolving against one base and then against another one is resolving against the join of the two.
* Against an absolute base, resolving once more changes nothing, and all locations have become
  absolute.
* The targets stay the same ones in the same order: names, parameters, lines, inline comments and
  documentation that is not there. The files of their locations, those of functions, of classes and
  of constructors alike, are joined to the base. -/
theorem resolve_acts (m : Manifest) (a b : Path) :
    (m.resolve b).resolve a = m.resolve (a.join b) ∧
      (b.isAbsolute = true → (m.resolve b).resolve b = m.resolve b ∧
        ∀ t ∈ (m.resolve b).targets, ∀ l ∈ t.locations, l.file.isAbsolute = true) ∧
      List.Forall₂ (Target.Moved fun p q ↦ q = b.join p) m.targets (m.resolve b).targets := by
  refine ⟨m.resolve_resolve a b, fun hb ↦ ⟨?_, fun t' ht' l hl ↦ ?_⟩, m.moved_resolve b⟩
  · rw [resolve_resolve, Path.join_of_isAbsolute hb]
  · obtain ⟨t, -, rfl⟩ := List.mem_map.1 ht'
    obtain ⟨p, hp⟩ := (t.moved_resolve b).exists_file hl
    rw [hp, Path.isAbsolute_join, hb, Bool.true_or]

/-- A class whose constructor has a location of its own, in an absolute directory. -/
theorem resolve_acts_constructor :
    let base : Path := ⟨"/project"⟩
    let m : Manifest := ⟨[.function ⟨"a", [], .location ⟨⟨"/abs/a.rs"⟩, 2⟩⟩,
      .classType ⟨"C", .inline "C.", some ⟨"new", [], .location ⟨⟨"c.rb"⟩, 5⟩⟩⟩]⟩
    let moved : Location := ⟨⟨"/project/c.rb"⟩, 5⟩
    base.isAbsolute = true ∧ (m.resolve base).resolve base = m.resolve base ∧
      (∃ t ∈ (m.resolve base).targets, moved ∈ t.locations) ∧ moved.file.isAbsolute = true := by
  intro base m moved
  have hbase : base.isAbsolute = true := by decide
  obtain ⟨-, habsolute, -⟩ := resolve_acts m base base
  obtain ⟨hself, hall⟩ := habsolute hbase
  have hclass : Target.classType ⟨"C", .inline "C.", some ⟨"new", [], .location moved⟩⟩ ∈
      (m.resolve base).targets := by decide
  have hmoved : moved ∈
      (Target.classType ⟨"C", .inline "C.", some ⟨"new", [], .location moved⟩⟩).locations := by
    decide
  exact ⟨hbase, hself, ⟨_, hclass, hmoved⟩, hall _ hclass moved hmoved⟩

end Manifest

end ToolSchema
