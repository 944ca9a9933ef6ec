import CrossCheck.Action
import Mathlib.Data.List.Basic

/-! # What actions leave

An action is taken with some text on the streams already, and adds to it. So its effect is what it
adds: nothing but text (`Action.Prints`), or text beside what another computation does
(`Action.Shows`), and both can be told part by part. -/

namespace CrossCheck

namespace Printed

instance : Append Printed where
  append p q := ⟨p.stdout ++ q.stdout, p.stderr ++ q.stderr⟩

theorem append_def (p q : Printed) : p ++ q = ⟨p.stdout ++ q.stdout, p.stderr ++ q.stderr⟩ := rfl

theorem append_assoc (p q r : Printed) : p ++ q ++ r = p ++ (q ++ r) := by
  simp [append_def, String.append_assoc]

@[simp]
theorem append_empty (p : Printed) : p ++ {} = p := by
  simp [append_def]

@[simp]
theorem empty_append (p : Printed) : {} ++ p = p := by
  simp [append_def]

/-- All that was printed, one piece after the other. -/
def join (ps : List Printed) : Printed :=
  ⟨String.join (ps.map stdout), String.join (ps.map stderr)⟩

@[simp]
theorem join_nil : join [] = {} := rfl

@[simp]
theorem join_cons (p : Printed) (ps : List Printed) : join (p :: ps) = p ++ join ps := by
  simp [join, append_def]

end Printed

namespace Action

variable {ε α β γ : Type} {m : Type → Type} [Monad m]

/-! ### Taking actions -/

theorem exec_pure (a : α) (p : Printed) : (pure a : Action ε m α).exec p = pure (.ok a, p) := by
  simp [exec]

theorem exec_throw (e : RunError ε) (p : Printed) :
    (throw e : Action ε m α).exec p = pure (.error e, p) := by
  simp [exec]

theorem exec_bind (x : Action ε m α) (f : α → Action ε m β) (p : Printed) :
    (x >>= f).exec p = x.exec p >>= fun r =>
      match r with
      | (.ok a, q) => (f a).exec q
      | (.error e, q) => pure (.error e, q) := by
  simp only [exec, ExceptT.run_bind, StateT.run_bind]
  refine bind_congr fun r => ?_
  rcases r with ⟨e | a, q⟩ <;> simp

/-- An action that does no more than print. -/
def Prints (x : Action ε m α) (a : α) (out : Printed) : Prop :=
  ∀ p, x.exec p = pure (.ok a, p ++ out)

theorem prints_pure (a : α) : (pure a : Action ε m α).Prints a {} := fun p => by
  rw [exec_pure, Printed.append_empty]

variable [LawfulMonad m]

theorem exec_modify (f : Printed → Printed) (p : Printed) :
    (modify f : Action ε m Unit).exec p = pure (.ok (), f p) := by
  show (Except.ok <$> (modify f : StateT Printed m Unit)).run p = _
  rw [StateT.run_map]
  simp

theorem prints_print (text : String) :
    (print text : Action ε m Unit).Prints () { stdout := text } := fun p => by
  rw [print, exec_modify]
  simp [Printed.append_def]

theorem prints_warn (text : String) :
    (warn text : Action ε m Unit).Prints () { stderr := text } := fun p => by
  rw [warn, exec_modify]
  simp [Printed.append_def]

theorem Prints.bind {x : Action ε m α} {f : α → Action ε m β} {a : α} {b : β} {out out' : Printed}
    (hx : x.Prints a out) (hf : (f a).Prints b out') :
    (x >>= f).Prints b (out ++ out') := fun p => by
  rw [exec_bind, hx p, pure_bind]
  exact (hf _).trans (by rw [Printed.append_assoc])

theorem Prints.bind_pure {x : Action ε m α} {a : α} {out : Printed} (hx : x.Prints a out) (b : β) :
    (x >>= fun _ => pure b : Action ε m β).Prints b out := by
  simpa using hx.bind (f := fun _ => pure b) (prints_pure b)

/-- **An action shows what `y` does:** it does the same, and what it leaves, its result and what it
prints, can be read off the result of `y`. -/
def Shows (x : Action ε m α) (y : m β) (left : β → Except (RunError ε) α × Printed) : Prop :=
  ∀ p, x.exec p = (fun b => ((left b).1, p ++ (left b).2)) <$> y

theorem shows_ask (x : m (Except ε α)) :
    (ask x : Action ε m α).Shows x fun r => (r.mapError .verifier, {}) := fun p => by
  have hlift : (liftM x : Action ε m (Except ε α)).exec p = (fun r => (.ok r, p)) <$> x := by
    show (Except.ok <$> (liftM x : StateT Printed m (Except ε α))).run p = _
    simp
  rw [ask]
  show ((liftM x : Action ε m (Except ε α)) >>= _).exec p = _
  rw [exec_bind, hlift, bind_map_left, map_eq_pure_bind]
  refine bind_congr fun r => ?_
  rw [Printed.append_empty]
  rcases r with e | a
  · exact exec_throw _ p
  · exact exec_pure a p

section Shows
variable {x : Action ε m α} {y : m β} {left : β → Except (RunError ε) α × Printed}

omit [LawfulMonad m] in
theorem Shows.congr (h : x.Shows y left) {left' : β → Except (RunError ε) α × Printed}
    (hleft : ∀ b, left b = left' b) : x.Shows y left' :=
  funext hleft ▸ h

theorem Shows.prints_bind {w : Action ε m γ} {c : γ} {f : γ → Action ε m α} {out : Printed}
    (hw : w.Prints c out) (h : (f c).Shows y left) :
    (w >>= f).Shows y fun b => ((left b).1, out ++ (left b).2) := fun p => by
  rw [exec_bind, hw p, pure_bind]
  refine (h _).trans ?_
  simp only [Printed.append_assoc]

theorem Shows.bind_prints (h : x.Shows y left) {f : α → Action ε m γ} {g : α → γ}
    {out : α → Printed} (hf : ∀ a, (f a).Prints (g a) (out a)) :
    (x >>= f).Shows y fun b =>
      match left b with
      | (.ok a, printed) => (.ok (g a), printed ++ out a)
      | (.error e, printed) => (.error e, printed) := fun p => by
  rw [exec_bind, h p, bind_map_left, map_eq_pure_bind]
  refine bind_congr fun b => ?_
  dsimp only
  rcases left b with ⟨e | a, printed⟩
  · rfl
  · exact (hf a _).trans (by rw [Printed.append_assoc])

theorem Shows.bind_pure (h : x.Shows y left) (g : α → γ) :
    (x >>= fun a => pure (g a) : Action ε m γ).Shows y fun b =>
      ((left b).1.map g, (left b).2) := by
  refine (h.bind_prints fun a => prints_pure (g a)).congr fun b => ?_
  rcases left b with ⟨e | a, printed⟩ <;> simp [Except.map]

end Shows

end Action

end CrossCheck
