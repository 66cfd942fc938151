import AppBundle.Reading

/-!
# What a reading comes to

With every request answered from a fixed source a reading that can fail yields a value, fails or
strays. One that is put together from two yields what the second makes of what the first yields
(`yields_bind`), and strays where the first does or where the second does after it
(`strays_bind`), so that a long reading is taken apart step by step.
-/

namespace AppBundle

variable {α β ε ε' : Type}

/-- Two steps succeed exactly if the first one does and the second one does with its value. -/
theorem bind_eq_ok {x : Except ε α} {f : α → Except ε β} {b : β} :
    x >>= f = .ok b ↔ ∃ a, x = .ok a ∧ f a = .ok b := by
  rcases x with e | a
  · refine iff_of_false (fun h => ?_) (by simp)
    cases (h : Except.error e = Except.ok b)
  · show f a = .ok b ↔ _
    simp

/-- An error in other words does not touch a success. -/
theorem mapError_eq_ok {g : ε → ε'} {x : Except ε α} {a : α} :
    x.mapError g = .ok a ↔ x = .ok a := by
  rcases x with e | b
  · refine iff_of_false (fun h => ?_) (by simp)
    cases (h : Except.error (g e) = Except.ok a)
  · show Except.ok b = Except.ok a ↔ _
    simp

theorem map_eq_ok {f : α → β} {x : Except ε α} {b : β} :
    x.map f = .ok b ↔ ∃ a, x = .ok a ∧ f a = b := by
  rcases x with e | a <;> simp [Except.map]

theorem map_eq_error {f : α → β} {x : Except ε α} {e : ε} :
    x.map f = .error e ↔ x = .error e := by
  rcases x with e' | a <;> simp [Except.map]

namespace Reading

variable (source : Path → Answer)

/-- The reading ends with the value. -/
def Yields (r : ExceptT ε Reading α) (a : α) : Prop := r.run.answer source = .ok (.ok a)

/-- The reading ends with an error. -/
def Fails (r : ExceptT ε Reading α) (e : ε) : Prop := r.run.answer source = .ok (.error e)

/-- The reading ends at an exclusion that is asked about a path it cannot speak of. -/
def Strays (r : ExceptT ε Reading α) : Prop := ∃ s, r.run.answer source = .error s

/-- The value that the reading ends with, if it does. -/
def yield? (r : ExceptT ε Reading α) : Option α :=
  match r.run.answer source with
  | .ok (.ok a) => some a
  | _ => none

theorem yield?_eq_some {r : ExceptT ε Reading α} {a : α} :
    yield? source r = some a ↔ Yields source r a := by
  unfold yield? Yields
  rcases r.run.answer source with s | e | b <;> simp

/-- The error that the reading ends with, if it does. -/
def failure? (r : ExceptT ε Reading α) : Option ε :=
  match r.run.answer source with
  | .ok (.error e) => some e
  | _ => none

/-- What is made of the value of a reading is made of its answer. -/
theorem answer_map (f : α → β) (r : Reading α) :
    (f <$> r).answer source = (r.answer source).map f := by
  have h := answer_bind source r fun a => done (f a)
  rcases hr : r.answer source with s | a
  · rw [hr] at h
    exact h
  · rw [hr] at h
    exact h

section Steps

variable {source}

theorem failure?_eq_some {r : ExceptT ε Reading α} {e : ε} :
    failure? source r = some e ↔ Fails source r e := by
  unfold failure? Fails
  rcases r.run.answer source with s | e' | b <;> simp

/-- A reading yields one value at most. -/
theorem Yields.unique {r : ExceptT ε Reading α} {a b : α} (ha : Yields source r a)
    (hb : Yields source r b) : a = b := by
  unfold Yields at ha hb
  rw [ha] at hb
  simpa using hb

/-- A reading that yields a value has not strayed. -/
theorem Yields.not_strays {r : ExceptT ε Reading α} {a : α} (h : Yields source r a) :
    ¬ Strays source r := by
  rintro ⟨s, hs⟩
  unfold Yields at h
  rw [h] at hs
  cases hs

@[simp] theorem yields_pure {a b : α} :
    Yields source (pure a : ExceptT ε Reading α) b ↔ a = b := by
  show Except.ok (Except.ok a) = Except.ok (Except.ok b) ↔ a = b
  simp

@[simp] theorem not_strays_pure {a : α} : ¬ Strays source (pure a : ExceptT ε Reading α) :=
  (yields_pure.2 rfl : Yields source (pure a) a).not_strays

@[simp] theorem not_yields_throw {e : ε} {a : α} :
    ¬ Yields source (throw e : ExceptT ε Reading α) a := by
  intro h
  cases (h : Except.ok (Except.error e) = Except.ok (Except.ok a))

@[simp] theorem not_strays_throw {e : ε} : ¬ Strays source (throw e : ExceptT ε Reading α) := by
  rintro ⟨s, hs⟩
  cases (hs : Except.ok (Except.error e) = Except.error s)

@[simp] theorem not_fails_pure {a : α} {e : ε} :
    ¬ Fails source (pure a : ExceptT ε Reading α) e := by
  intro h
  cases (h : Except.ok (Except.ok a) = Except.ok (Except.error e))

@[simp] theorem fails_throw {e e' : ε} :
    Fails source (throw e : ExceptT ε Reading α) e' ↔ e = e' := by
  show Except.ok (Except.error e) = Except.ok (Except.error e') ↔ e = e'
  simp

/-- Of two readings the second goes on with what the first yields, and nothing follows an error. -/
theorem answer_run_bind (r : ExceptT ε Reading α) (f : α → ExceptT ε Reading β) :
    (r >>= f).run.answer source = (r.run.answer source).bind fun
      | .ok a => (f a).run.answer source
      | .error e => .ok (.error e) := by
  rw [ExceptT.run_bind, answer_bind]
  rcases r.run.answer source with s | e | a <;> rfl

/-- Two readings yield what the second does with a value that the first yields. -/
theorem yields_bind {r : ExceptT ε Reading α} {f : α → ExceptT ε Reading β} {b : β} :
    Yields source (r >>= f) b ↔ ∃ a, Yields source r a ∧ Yields source (f a) b := by
  unfold Yields
  rw [answer_run_bind]
  rcases r.run.answer source with s | e | a <;> simp [Except.bind]

/-- They fail where the first does, or the second with a value that the first yields. -/
theorem fails_bind {r : ExceptT ε Reading α} {f : α → ExceptT ε Reading β} {e : ε} :
    Fails source (r >>= f) e ↔
      Fails source r e ∨ ∃ a, Yields source r a ∧ Fails source (f a) e := by
  unfold Fails Yields
  rw [answer_run_bind]
  rcases r.run.answer source with s | e' | a <;> simp [Except.bind]

/-- They stray where the first does, or the second with a value that the first yields. -/
theorem strays_bind {r : ExceptT ε Reading α} {f : α → ExceptT ε Reading β} :
    Strays source (r >>= f) ↔
      Strays source r ∨ ∃ a, Yields source r a ∧ Strays source (f a) := by
  unfold Strays Yields
  rw [answer_run_bind]
  rcases r.run.answer source with s | e | a <;> simp [Except.bind]

@[simp] theorem mapError_ok {g : ε → ε'} {a : α} : (Except.ok a).mapError g = .ok a := rfl

@[simp] theorem mapError_error {g : ε → ε'} {e : ε} :
    (Except.error e : Except ε α).mapError g = .error (g e) := rfl

theorem answer_run_adapt (g : ε → ε') (r : ExceptT ε Reading α) :
    (r.adapt g).run.answer source = (r.run.answer source).map (Except.mapError g) :=
  answer_map source _ _

/-- Errors in other words leave the value of a reading alone. -/
@[simp] theorem yields_adapt {g : ε → ε'} {r : ExceptT ε Reading α} {a : α} :
    Yields source (r.adapt g) a ↔ Yields source r a := by
  unfold Yields
  rw [answer_run_adapt]
  rcases r.run.answer source with s | e | b <;> simp [Except.map]

@[simp] theorem strays_adapt {g : ε → ε'} {r : ExceptT ε Reading α} :
    Strays source (r.adapt g) ↔ Strays source r := by
  unfold Strays
  rw [answer_run_adapt]
  rcases r.run.answer source with s | e | b <;> simp [Except.map]

/-- A reading whose errors are put in other words fails in these words. -/
@[simp] theorem fails_adapt {g : ε → ε'} {r : ExceptT ε Reading α} {e' : ε'} :
    Fails source (r.adapt g) e' ↔ ∃ e, Fails source r e ∧ g e = e' := by
  unfold Fails
  rw [answer_run_adapt]
  rcases r.run.answer source with s | e | a <;> simp [Except.map]

/-- A reading that cannot fail has its value for an answer. -/
theorem answer_run_lift (r : Reading α) :
    (liftM r : ExceptT ε Reading α).run.answer source = (r.answer source).map .ok :=
  answer_map source _ _

@[simp] theorem yields_lift {r : Reading α} {a : α} :
    Yields source (liftM r : ExceptT ε Reading α) a ↔ r.answer source = .ok a := by
  unfold Yields
  rw [answer_run_lift]
  rcases r.answer source with s | b <;> simp [Except.map]

@[simp] theorem strays_lift {r : Reading α} :
    Strays source (liftM r : ExceptT ε Reading α) ↔ ∃ s, r.answer source = .error s := by
  unfold Strays
  rw [answer_run_lift]
  rcases r.answer source with s | b <;> simp [Except.map]

/-- Asking for a file yields what the source answers, and fails where that is an error. -/
@[simp] theorem yields_file {p : Path} {found : Option ProjectFile} :
    Yields source (ExceptT.mk (file p)) found ↔ source p = .ok found := by
  show Except.ok (source p) = Except.ok (Except.ok found) ↔ _
  simp

@[simp] theorem fails_file {p : Path} {e : AccessError} :
    Fails source (ExceptT.mk (file p)) e ↔ source p = .error e := by
  show Except.ok (source p) = Except.ok (Except.error e) ↔ _
  simp

@[simp] theorem not_strays_file {p : Path} : ¬ Strays source (ExceptT.mk (file p)) := by
  rintro ⟨s, hs⟩
  cases (hs : Except.ok (source p) = Except.error s)

@[simp] theorem not_yields_stray {s : Stray} {a : α} :
    ¬ Yields source (ExceptT.mk (stray s) : ExceptT ε Reading α) a := by
  intro h
  cases (h : Except.error s = Except.ok (Except.ok a))

@[simp] theorem not_fails_stray {s : Stray} {e : ε} :
    ¬ Fails source (ExceptT.mk (stray s) : ExceptT ε Reading α) e := by
  intro h
  cases (h : Except.error s = Except.ok (Except.error e))

@[simp] theorem strays_stray {s : Stray} :
    Strays source (ExceptT.mk (stray s) : ExceptT ε Reading α) := ⟨s, rfl⟩

end Steps

/-! ## Requests -/

section Requests

variable {source}

/-- The second of two readings asks behind the first, unless that strays. -/
theorem requests_bind (r : Reading α) (f : α → Reading β) :
    (r >>= f).requests source = r.requests source ++ match r.answer source with
      | .ok a => (f a).requests source
      | .error _ => [] := by
  show (bind r f).requests source = _
  induction r with
  | done a => rfl
  | ask p next ih => exact congrArg (p :: ·) (ih _)
  | stray s => rfl

theorem requests_map (f : α → β) (r : Reading α) :
    (f <$> r).requests source = r.requests source := by
  have hmap : f <$> r = r >>= fun a => done (f a) := rfl
  rw [hmap, requests_bind]
  rcases r.answer source with s | a <;> simp [requests]

/-- Where the first reading yields a value, the second asks behind it. -/
theorem requests_run_bind {r : ExceptT ε Reading α} {f : α → ExceptT ε Reading β} {a : α}
    (h : Yields source r a) : (r >>= f).run.requests source
      = r.run.requests source ++ (f a).run.requests source := by
  rw [ExceptT.run_bind, requests_bind, show r.run.answer source = .ok (.ok a) from h]

/-- What two readings ask for is asked for by the first, or by the second with a value that the
first yields. -/
theorem mem_requests_run_bind {r : ExceptT ε Reading α} {f : α → ExceptT ε Reading β} {p : Path} :
    p ∈ (r >>= f).run.requests source
      ↔ p ∈ r.run.requests source ∨ ∃ a, Yields source r a ∧ p ∈ (f a).run.requests source := by
  rw [ExceptT.run_bind, requests_bind, List.mem_append]
  refine or_congr_right ?_
  unfold Yields
  rcases r.run.answer source with s | e | a
  · simp
  · exact iff_of_false List.not_mem_nil (by simp)
  · simp

theorem requests_run_adapt (g : ε → ε') (r : ExceptT ε Reading α) :
    (r.adapt g).run.requests source = r.run.requests source := requests_map _ _

theorem requests_run_lift (r : Reading α) :
    (liftM r : ExceptT ε Reading α).run.requests source = r.requests source := requests_map _ _

end Requests

end Reading

end AppBundle
