/-
The outcomes of a list of actions.

Actions are done one after the other, up to the first that fails.  So the first failure counts
(`mapM_eq_error_iff`), all is well exactly if each action is (`mapM_isOk_iff`), and then what they
yield is what each of them yields (`mem_mapM_iff`).
-/

namespace SwatchIndex

/-- One action after another succeeds exactly if both do. -/
theorem bind_eq_ok_iff {α β ε : Type} {x : Except ε α} {f : α → Except ε β} {b : β} :
    x >>= f = .ok b ↔ ∃ a, x = .ok a ∧ f a = .ok b := by
  cases x <;> simp [bind, Except.bind]

theorem mapError_eq_ok_iff {α ε ε' : Type} {x : Except ε α} {f : ε → ε'} {a : α} :
    x.mapError f = .ok a ↔ x = .ok a := by
  cases x with
  | error e => exact ⟨fun h => (nomatch h), fun h => (nomatch h)⟩
  | ok b =>
      constructor
      · intro h
        cases h
        rfl
      · intro h
        cases h
        rfl

theorem mapError_eq_error_iff {α ε ε' : Type} {x : Except ε α} {f : ε → ε'} {e' : ε'} :
    x.mapError f = .error e' ↔ ∃ e, x = .error e ∧ f e = e' := by
  cases x with
  | ok a => exact ⟨fun h => (nomatch h), fun ⟨_, h, _⟩ => (nomatch h)⟩
  | error e =>
      constructor
      · intro h
        exact ⟨e, rfl, Except.error.inj h⟩
      · rintro ⟨_, h, rfl⟩
        cases h
        rfl

theorem map_eq_ok_iff {α β ε : Type} {x : Except ε α} {f : α → β} {b : β} :
    x.map f = .ok b ↔ ∃ a, x = .ok a ∧ f a = b := by
  cases x <;> simp [Except.map]

theorem map_eq_error_iff {α β ε : Type} {x : Except ε α} {f : α → β} {e : ε} :
    x.map f = .error e ↔ x = .error e := by
  cases x <;> simp [Except.map]

/-- An action succeeds exactly if it does not fail. -/
theorem isOk_iff {α ε : Type} {outcome : Except ε α} :
    (∃ a, outcome = .ok a) ↔ ∀ e, outcome ≠ .error e := by
  cases outcome <;> simp

/-! ### Success -/

/-- A list of actions succeeds exactly if none of them fails. -/
theorem mapM_isOk_iff {α β ε : Type} {f : α → Except ε β} {xs : List α} :
    (∃ ys, xs.mapM f = .ok ys) ↔ ∀ x ∈ xs, ∀ e, f x ≠ .error e := by
  induction xs with
  | nil => simp [pure, Except.pure]
  | cons x rest ih =>
      rw [List.mapM_cons, List.forall_mem_cons, ← ih]
      cases f x with
      | error cause => simp [bind, Except.bind]
      | ok b => cases rest.mapM f <;> simp [bind, Except.bind, pure, Except.pure]

/-- Where a list of actions succeeds, its first action and the others do. -/
theorem mapM_cons_eq_ok {α β ε : Type} {f : α → Except ε β} {x : α} {xs : List α} {ys : List β}
    (h : (x :: xs).mapM f = .ok ys) :
    ∃ y rest, f x = .ok y ∧ xs.mapM f = .ok rest ∧ ys = y :: rest := by
  rw [List.mapM_cons] at h
  cases hx : f x with
  | error cause => rw [hx] at h; cases h
  | ok y =>
      cases hxs : xs.mapM f with
      | error cause => rw [hx, hxs] at h; cases h
      | ok rest =>
          rw [hx, hxs] at h
          cases h
          exact ⟨y, rest, rfl, rfl, rfl⟩

/-- Where two lists of actions in a row succeed, both do. -/
theorem mapM_append_eq_ok {α β ε : Type} {f : α → Except ε β} {xs xs' : List α} {ys : List β}
    (h : (xs ++ xs').mapM f = .ok ys) :
    ∃ first second, xs.mapM f = .ok first ∧ xs'.mapM f = .ok second ∧ ys = first ++ second := by
  induction xs generalizing ys with
  | nil => exact ⟨[], ys, rfl, h, rfl⟩
  | cons x rest ih =>
      obtain ⟨y, more, hx, hmore, rfl⟩ := mapM_cons_eq_ok h
      obtain ⟨first, second, hfirst, hsecond, rfl⟩ := ih hmore
      exact ⟨y :: first, second, by rw [List.mapM_cons, hx, hfirst]; rfl, hsecond, rfl⟩

/-- What is known of each yield from its action is known of all of them, in order. -/
theorem map_of_mapM_eq_ok {α β γ ε : Type} {f : α → Except ε β} {g : β → γ} {k : α → γ}
    {xs : List α} {ys : List β} (h : xs.mapM f = .ok ys) (hg : ∀ x y, f x = .ok y → g y = k x) :
    ys.map g = xs.map k := by
  induction xs generalizing ys with
  | nil =>
      cases h
      rfl
  | cons x rest ih =>
      obtain ⟨y, others, hx, hrest, rfl⟩ := mapM_cons_eq_ok h
      rw [List.map_cons, List.map_cons, hg x y hx, ih hrest]

theorem map_mapM {α β γ ε : Type} (f : α → Except ε β) (g : β → γ) (xs : List α) :
    (xs.mapM f).map (List.map g) = xs.mapM fun x => (f x).map g := by
  induction xs with
  | nil => rfl
  | cons x rest ih =>
      rw [List.mapM_cons, List.mapM_cons, ← ih]
      cases f x with
      | error e => rfl
      | ok y => cases rest.mapM f <;> rfl

theorem mapM_eq_of_forall {α β ε : Type} {f f' : α → Except ε β} {xs : List α}
    (h : ∀ x ∈ xs, f x = f' x) : xs.mapM f = xs.mapM f' := by
  induction xs with
  | nil => rfl
  | cons x rest ih =>
      obtain ⟨hx, hrest⟩ := List.forall_mem_cons.mp h
      rw [List.mapM_cons, List.mapM_cons, hx, ih hrest]

/-- Two lists of actions in a row, each of the second on what one of the first yields, are one list
of both. -/
theorem mapM_eq_ok_iff_of_comp {α β γ ε ε' ε'' : Type} {f : α → Except ε β} {k : β → Except ε' γ}
    {both : α → Except ε'' γ} (h : ∀ x c, both x = .ok c ↔ ∃ b, f x = .ok b ∧ k b = .ok c)
    {xs : List α} {cs : List γ} :
    xs.mapM both = .ok cs ↔ ∃ bs, xs.mapM f = .ok bs ∧ bs.mapM k = .ok cs := by
  induction xs generalizing cs with
  | nil => simp [pure, Except.pure]
  | cons x rest ih =>
      constructor
      · intro hboth
        obtain ⟨c, more, hx, hrest, rfl⟩ := mapM_cons_eq_ok hboth
        obtain ⟨b, hf, hk⟩ := (h x c).mp hx
        obtain ⟨bs, hfs, hks⟩ := ih.mp hrest
        exact ⟨b :: bs, by rw [List.mapM_cons, hf, hfs]; rfl,
          by rw [List.mapM_cons, hk, hks]; rfl⟩
      · rintro ⟨bs, hfs, hks⟩
        obtain ⟨b, others, hf, hothers, rfl⟩ := mapM_cons_eq_ok hfs
        obtain ⟨c, more, hk, hmore, rfl⟩ := mapM_cons_eq_ok hks
        rw [List.mapM_cons, (h x c).mpr ⟨b, hf, hk⟩, ih.mpr ⟨others, hothers, hmore⟩]
        rfl

/-- Actions that yield nothing may be left out. -/
theorem flatten_mapM_filter {α β ε : Type} {f : α → Except ε (List β)} {keep : α → Bool}
    {xs : List α} (h : ∀ x ∈ xs, keep x = false → f x = .ok []) :
    ((xs.filter keep).mapM f).map List.flatten = (xs.mapM f).map List.flatten := by
  induction xs with
  | nil => rfl
  | cons x rest ih =>
      obtain ⟨hx, hrest⟩ := List.forall_mem_cons.mp h
      have hcons (ys : List α) : ((x :: ys).mapM f).map List.flatten =
          f x >>= fun bs => ((ys.mapM f).map List.flatten).map (bs ++ ·) := by
        rw [List.mapM_cons]
        cases f x with
        | error e => rfl
        | ok bs => cases ys.mapM f <;> rfl
      cases hkeep : keep x with
      | true => rw [List.filter_cons_of_pos hkeep, hcons, hcons, ih hrest]
      | false =>
          rw [List.filter_cons_of_neg (by simp [hkeep]), hcons, hx hkeep, ih hrest]
          cases rest.mapM f <;> rfl

/-- What a list of actions yields is what one of them yields. -/
theorem mem_mapM_iff {α β ε : Type} {f : α → Except ε β} {xs : List α} {ys : List β} {y : β}
    (h : xs.mapM f = .ok ys) : y ∈ ys ↔ ∃ x ∈ xs, f x = .ok y := by
  induction xs generalizing ys with
  | nil =>
      cases h
      simp
  | cons x rest ih =>
      obtain ⟨first, others, hx, hrest, rfl⟩ := mapM_cons_eq_ok h
      have hfirst : y = first ↔ f x = .ok y := by rw [hx, Except.ok.injEq, eq_comm]
      simp only [List.mem_cons, ih hrest, hfirst, exists_eq_or_imp]

/-- A list of actions fails with the first one that fails. -/
theorem mapM_eq_error_iff {α β ε : Type} {f : α → Except ε β} {xs : List α} {e : ε} :
    xs.mapM f = .error e ↔
      ∃ before x after, xs = before ++ x :: after ∧ (∀ y ∈ before, ∃ b, f y = .ok b) ∧
        f x = .error e := by
  induction xs with
  | nil => simp [pure, Except.pure]
  | cons x rest ih =>
      rw [List.mapM_cons]
      constructor
      · intro h
        cases hx : f x with
        | error cause =>
            rw [hx] at h
            cases h
            exact ⟨[], x, rest, rfl, by simp, hx⟩
        | ok b =>
            cases hrest : rest.mapM f with
            | ok bs => rw [hx, hrest] at h; cases h
            | error cause =>
                rw [hx, hrest] at h
                cases h
                obtain ⟨before, y, after, rfl, hbefore, hy⟩ := ih.mp hrest
                refine ⟨x :: before, y, after, rfl, ?_, hy⟩
                exact List.forall_mem_cons.mpr ⟨⟨b, hx⟩, hbefore⟩
      · rintro ⟨before, y, after, hsplit, hbefore, hy⟩
        cases before with
        | nil =>
            obtain ⟨rfl, rfl⟩ := List.cons.inj hsplit
            rw [hy]
            rfl
        | cons z before =>
            obtain ⟨rfl, rfl⟩ := List.cons.inj hsplit
            obtain ⟨⟨b, hx⟩, hbefore⟩ := List.forall_mem_cons.mp hbefore
            rw [hx, ih.mpr ⟨before, y, after, rfl, hbefore, hy⟩]
            rfl

end SwatchIndex
