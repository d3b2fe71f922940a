import ToolSchema.Convert.Trace

/-!
# Cutting a trace

A strict policy stops a conversion at the first thing that a lenient one warns about. So the trace
of the strict run is the trace of the lenient one, cut at the first warning that the policy does not
put up with (`Traced.cut`). What stops a run is a partial function `stop` from warnings to errors;
this module knows nothing about policies.

The main statement is `Traced.cut_bind`: cutting a sequence of steps is cutting every step of it.
With it, that two runs differ by a cut only is shown step by step. The steps that do differ are
those where a policy has the say (`Traced.tolerate_eq_cut`).
-/

namespace ToolSchema

/-! ### Warnings among notes -/

@[simp] theorem warningsOf_nil : warningsOf [] = [] := rfl

@[simp] theorem warningsOf_append (ns ms : List Note) :
    warningsOf (ns ++ ms) = warningsOf ns ++ warningsOf ms :=
  List.filterMap_append

@[simp] theorem warningsOf_cons (n : Note) (ns : List Note) :
    warningsOf (n :: ns) = n.warning?.toList ++ warningsOf ns := by
  cases h : n.warning? <;> simp [warningsOf, h]

/-- The error that a note stops a run with, if it holds a warning that does. -/
def Note.stop? (stop : Warning → Option ConvertError) (n : Note) : Option ConvertError :=
  n.warning?.bind stop

/-- The first error among notes is the one of the first warning that stops. -/
theorem findSome?_stop? (stop : Warning → Option ConvertError) (ns : List Note) :
    ns.findSome? (Note.stop? stop) = (warningsOf ns).findSome? stop := by
  induction ns with
  | nil => rfl
  | cons n ns ih =>
    rw [warningsOf_cons, List.findSome?_append, List.findSome?_cons, ih]
    rcases h : n.warning? with - | w
    · simp [Note.stop?, h]
    · rcases hw : stop w with - | e <;> simp [Note.stop?, h, hw]

namespace Traced

variable {α β : Type}

/-! ### Steps in sequence -/

@[simp] theorem pure_eq (a : α) : (pure a : Traced α) = ⟨[], .ok a⟩ := rfl

/-- A step that did not fail hands its value on, and the notes add up. -/
@[simp] theorem ok_bind (ns : List Note) (a : α) (f : α → Traced β) :
    (⟨ns, .ok a⟩ >>= f : Traced β) = ⟨ns ++ (f a).notes, (f a).result⟩ := rfl

/-- Nothing comes after a failure. -/
@[simp] theorem error_bind (ns : List Note) (e : ConvertError) (f : α → Traced β) :
    (⟨ns, .error e⟩ >>= f : Traced β) = ⟨ns, .error e⟩ := rfl

/-- The notes of a sequence of steps that did not fail are those of its steps. -/
theorem notes_bind_of_ok {x : Traced α} {a : α} (h : x.result = .ok a) (f : α → Traced β) :
    (x >>= f).notes = x.notes ++ (f a).notes := by
  obtain ⟨ns, r⟩ := x
  cases h
  rfl

theorem result_bind_of_ok {x : Traced α} {a : α} (h : x.result = .ok a) (f : α → Traced β) :
    (x >>= f).result = (f a).result := by
  obtain ⟨ns, r⟩ := x
  cases h
  rfl

/-- A last step that only changes the value notes nothing, whether it comes about or not. -/
@[simp] theorem notes_bind_pure (x : Traced α) (f : α → β) :
    (x >>= fun a ↦ pure (f a)).notes = x.notes := by
  obtain ⟨ns, e | a⟩ := x
  · rfl
  · exact List.append_nil ns

/-! ### Cuts -/

variable (stop : Warning → Option ConvertError)

/-- The notes before the first one that stops. -/
def notesBefore (ns : List Note) : List Note := ns.takeWhile fun n ↦ (n.stop? stop).isNone

/-- The run up to the first warning that stops. It fails with that warning's error, and the warning
itself is no longer noted down. -/
def cut (x : Traced α) : Traced α :=
  match x.notes.findSome? (Note.stop? stop) with
  | some e => ⟨notesBefore stop x.notes, .error e⟩
  | none => x

variable {stop}

theorem cut_of_none {x : Traced α} (h : x.notes.findSome? (Note.stop? stop) = none) :
    x.cut stop = x := by
  rw [cut, h]

theorem cut_of_some {x : Traced α} {e : ConvertError}
    (h : x.notes.findSome? (Note.stop? stop) = some e) :
    x.cut stop = ⟨notesBefore stop x.notes, .error e⟩ := by
  rw [cut, h]

/-- A cut run with a value has nothing that stops in it. -/
theorem findSome?_eq_none_of_result_cut {x : Traced α} {a : α}
    (h : (x.cut stop).result = .ok a) : x.notes.findSome? (Note.stop? stop) = none := by
  rcases hs : x.notes.findSome? (Note.stop? stop) with - | e
  · rfl
  · rw [cut_of_some hs] at h
    cases h

/-- Such a run is not cut short. -/
theorem result_of_result_cut {x : Traced α} {a : α} (h : (x.cut stop).result = .ok a) :
    x.result = .ok a := by
  rwa [cut_of_none (findSome?_eq_none_of_result_cut h)] at h

/-- What is noted behind a warning that stops does not count. -/
theorem notesBefore_append_of_some {ns : List Note} {e : ConvertError}
    (h : ns.findSome? (Note.stop? stop) = some e) (ms : List Note) :
    notesBefore stop (ns ++ ms) = notesBefore stop ns := by
  induction ns with
  | nil => cases h
  | cons n ns ih =>
    rw [List.findSome?_cons] at h
    rw [notesBefore, notesBefore, List.cons_append, List.takeWhile_cons, List.takeWhile_cons]
    rcases hn : n.stop? stop with - | e'
    · rw [hn] at h
      simpa [notesBefore] using ih h
    · simp

theorem notesBefore_append_of_none {ns : List Note} (h : ns.findSome? (Note.stop? stop) = none)
    (ms : List Note) : notesBefore stop (ns ++ ms) = ns ++ notesBefore stop ms := by
  refine List.takeWhile_append_of_pos fun n hn ↦ ?_
  rw [List.findSome?_eq_none_iff.1 h n hn]
  rfl

theorem warningsOf_notesBefore (stop : Warning → Option ConvertError) (ns : List Note) :
    warningsOf (notesBefore stop ns) = (warningsOf ns).takeWhile fun w ↦ (stop w).isNone := by
  induction ns with
  | nil => rfl
  | cons n ns ih =>
    rw [notesBefore] at ih
    rw [notesBefore, List.takeWhile_cons, warningsOf_cons]
    -- only a warning can stop, and it is no longer noted down then
    rcases hw : n.warning? with - | w
    · have hn : n.stop? stop = none := by rw [Note.stop?, hw, Option.bind_none]
      simp [hn, hw, ih]
    · have hn : n.stop? stop = stop w := by rw [Note.stop?, hw, Option.bind_some]
      rcases hs : stop w with - | e <;> simp [hn, hw, hs, ih]

/-- What a cut run notes down is what comes before the first warning that stops. -/
theorem notes_cut (stop : Warning → Option ConvertError) (x : Traced α) :
    (x.cut stop).notes = notesBefore stop x.notes := by
  rcases h : x.notes.findSome? (Note.stop? stop) with - | e
  · have hbefore := notesBefore_append_of_none h []
    rw [List.append_nil] at hbefore
    rw [cut_of_none h, hbefore]
    exact (List.append_nil _).symm
  · rw [cut_of_some h]

/-- **A sequence is cut step by step.** If the first step is cut short, the second one does not
begin; if it is not, the cut is that of the second. -/
theorem cut_bind (stop : Warning → Option ConvertError) (x : Traced α) (f : α → Traced β) :
    (x >>= f).cut stop = x.cut stop >>= fun a ↦ (f a).cut stop := by
  obtain ⟨ns, r⟩ := x
  rcases h : ns.findSome? (Note.stop? stop) with - | e
  · -- nothing stops in the first step, so the cut is in the second one
    rw [cut_of_none (x := ⟨ns, r⟩) h]
    rcases r with e' | a
    · exact cut_of_none (x := ⟨ns, .error e'⟩) h
    · have hs : (ns ++ (f a).notes).findSome? (Note.stop? stop) =
          (f a).notes.findSome? (Note.stop? stop) := by
        rw [List.findSome?_append, h, Option.none_or]
      rw [ok_bind, ok_bind]
      rcases hf : (f a).notes.findSome? (Note.stop? stop) with - | e
      · rw [cut_of_none (hs.trans hf), cut_of_none hf]
      · rw [cut_of_some (hs.trans hf), cut_of_some hf, notesBefore_append_of_none h]
  · -- the first step is cut short, and the second one does not begin
    rw [cut_of_some (x := ⟨ns, r⟩) h, error_bind]
    rcases r with e' | a
    · exact cut_of_some (x := ⟨ns, .error e'⟩) h
    · have hs : (ns ++ (f a).notes).findSome? (Note.stop? stop) = some e := by
        rw [List.findSome?_append, h, Option.some_or]
      rw [ok_bind, cut_of_some (x := ⟨ns ++ (f a).notes, (f a).result⟩) hs]
      exact congrArg (Traced.mk · _) (notesBefore_append_of_some h _)

/-- Behind notes that do not stop, the cut is that of what follows. -/
theorem cut_append (stop : Warning → Option ConvertError) {ns : List Note}
    (h : ns.findSome? (Note.stop? stop) = none) (x : Traced α) :
    (⟨ns ++ x.notes, x.result⟩ : Traced α).cut stop =
      ⟨ns ++ (x.cut stop).notes, (x.cut stop).result⟩ := by
  have hx := cut_bind stop ⟨ns, .ok ()⟩ fun _ ↦ x
  rwa [ok_bind, cut_of_none (x := ⟨ns, .ok ()⟩) h, ok_bind] at hx

/-- **Strict is lenient, cut.** Where a lenient policy warns, a strict one fails: this is a cut at
that warning, if the warning stops exactly under the strict policy. -/
theorem tolerate_eq_cut {policy : Policy} {w : Warning} {e : ConvertError} (a : α)
    (h : stop w = if policy = .strict then some e else none) :
    tolerate policy w e a = (tolerate .lenient w e a).cut stop := by
  cases policy with
  | lenient =>
    rw [if_neg (by decide)] at h
    exact (cut_of_none (by simp [tolerate, warn, note, Note.stop?, Note.warning?, h])).symm
  | strict =>
    rw [if_pos rfl] at h
    have hs : (tolerate .lenient w e a).notes.findSome? (Note.stop? stop) = some e := by
      simp [tolerate, warn, note, Note.stop?, Note.warning?, h]
    -- the warning is the first note, so nothing is noted before the failure
    rw [cut_of_some hs]
    simp [tolerate, warn, note, notesBefore, Note.stop?, Note.warning?, h, fail]

end Traced

end ToolSchema
