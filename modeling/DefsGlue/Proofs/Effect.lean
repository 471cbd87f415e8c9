import Mathlib.Data.List.Forall2

/-! Computations that may fail: what their success says of the steps they are made of. -/
namespace DefsGlue

variable {ε α β : Type} {xs : List α} {ys : List β}

/-- A chain that succeeds has links that succeed. -/
theorem exists_of_bind_ok {x : Except ε α} {f : α → Except ε β} {y : β}
    (h : x >>= f = .ok y) : ∃ a, x = .ok a ∧ f a = .ok y := by
  cases x with
  | error e => cases h
  | ok a => exact ⟨a, rfl, h⟩

theorem exists_bind_ok_iff {x : Except ε α} {f : α → Except ε β} :
    (∃ y, x >>= f = .ok y) ↔ ∃ a, x = .ok a ∧ ∃ y, f a = .ok y := by
  constructor
  · rintro ⟨y, h⟩
    obtain ⟨a, hx, hy⟩ := exists_of_bind_ok h
    exact ⟨a, hx, y, hy⟩
  · rintro ⟨a, rfl, y, hy⟩
    exact ⟨y, hy⟩

/-- A chain fails where its first link does, or where the next does after it. -/
theorem bind_error_iff {x : Except ε α} {f : α → Except ε β} {e : ε} :
    x >>= f = .error e ↔ x = .error e ∨ ∃ a, x = .ok a ∧ f a = .error e := by
  cases x with
  | error e' => simp [bind, Except.bind]
  | ok a => simp [bind, Except.bind]

theorem exists_of_map_ok {x : Except ε α} {f : α → β} {y : β} (h : f <$> x = .ok y) :
    ∃ a, x = .ok a ∧ f a = y := by
  cases x with
  | error e => cases h
  | ok a => exact ⟨a, rfl, Except.ok.inj h⟩

/-- Success behind a guard shows that the guard did not refuse. -/
theorem of_guard_ok {p : Prop} [Decidable p] {e : ε} {x : Except ε α} {y : α}
    (h : (if p then .error e else x) = .ok y) : ¬ p ∧ x = .ok y := by
  split at h
  · cases h
  · next hp => exact ⟨hp, h⟩

/-- Where an effect succeeds on all elements, there is one result for each, in order. -/
theorem forall₂_of_mapM {f : α → Except ε β} (h : xs.mapM f = .ok ys) :
    List.Forall₂ (fun x y => f x = .ok y) xs ys := by
  induction xs generalizing ys with
  | nil =>
    obtain rfl := Except.ok.inj h
    exact .nil
  | cons x xs ih =>
    rw [List.mapM_cons] at h
    obtain ⟨y, hy, h⟩ := exists_of_bind_ok h
    obtain ⟨zs, hz, h⟩ := exists_of_bind_ok h
    obtain rfl := Except.ok.inj h
    exact .cons hy (ih hz)

theorem mapM_of_forall₂ {f : α → Except ε β} (h : List.Forall₂ (fun x y => f x = .ok y) xs ys) :
    xs.mapM f = .ok ys := by
  induction h with
  | nil => rfl
  | cons hxy _ ih =>
    rw [List.mapM_cons, hxy, ih]
    rfl

theorem exists_of_forall₂_mem {R : α → β → Prop} {x : α} (h : List.Forall₂ R xs ys)
    (hx : x ∈ xs) : ∃ y ∈ ys, R x y := by
  induction h with
  | nil => cases hx
  | cons hxy _ ih =>
    rcases List.mem_cons.mp hx with rfl | hx
    · exact ⟨_, List.mem_cons_self, hxy⟩
    · obtain ⟨y, hy, hxy⟩ := ih hx
      exact ⟨y, List.mem_cons_of_mem _ hy, hxy⟩

theorem exists_mapM_iff {f : α → Except ε β} :
    (∃ ys, xs.mapM f = .ok ys) ↔ ∀ x ∈ xs, ∃ y, f x = .ok y := by
  constructor
  · rintro ⟨ys, h⟩ x hx
    obtain ⟨y, -, hy⟩ := exists_of_forall₂_mem (forall₂_of_mapM h) hx
    exact ⟨y, hy⟩
  · intro h
    induction xs with
    | nil => exact ⟨[], rfl⟩
    | cons x xs ih =>
      obtain ⟨y, hy⟩ := h x List.mem_cons_self
      obtain ⟨ys, hys⟩ := ih fun x' hx => h x' (List.mem_cons_of_mem x hx)
      exact ⟨y :: ys, mapM_of_forall₂ (.cons hy (forall₂_of_mapM hys))⟩

/-- An effect fails on a list exactly if it fails on an element and on none that stands before. -/
theorem mapM_error_iff {f : α → Except ε β} {e : ε} : xs.mapM f = .error e ↔
    ∃ before x after, xs = before ++ x :: after ∧ (∀ y ∈ before, ∃ z, f y = .ok z) ∧
      f x = .error e := by
  constructor
  · intro h
    induction xs with
    | nil => cases h
    | cons x xs ih =>
      rw [List.mapM_cons, bind_error_iff] at h
      rcases h with hx | ⟨z, hx, h⟩
      · exact ⟨[], x, xs, rfl, by simp, hx⟩
      · rcases bind_error_iff.mp h with hxs | ⟨zs, -, h⟩
        · obtain ⟨before, y, after, rfl, hbefore, hy⟩ := ih hxs
          exact ⟨x :: before, y, after, rfl, List.forall_mem_cons.mpr ⟨⟨z, hx⟩, hbefore⟩, hy⟩
        · cases h
  · rintro ⟨before, x, after, rfl, hbefore, hx⟩
    obtain ⟨zs, hzs⟩ := exists_mapM_iff.mpr hbefore
    rw [List.mapM_append, hzs, List.mapM_cons, hx]
    rfl

/-- What is related to a list in two parts is in two parts itself. -/
theorem exists_of_forall₂_append {R : α → β → Prop} {xs' : List α}
    (h : List.Forall₂ R (xs ++ xs') ys) :
    ∃ zs zs', ys = zs ++ zs' ∧ List.Forall₂ R xs zs ∧ List.Forall₂ R xs' zs' := by
  induction xs generalizing ys with
  | nil => exact ⟨[], ys, rfl, .nil, h⟩
  | cons x xs ih =>
    cases h with
    | cons hxy h =>
      obtain ⟨zs, zs', rfl, hz, hz'⟩ := ih h
      exact ⟨_ :: zs, zs', rfl, .cons hxy hz, hz'⟩

/-- What is related to the elements of a list is related to those that are left of it. -/
theorem forall₂_of_sublist {R : α → β → Prop} {xs' : List α} (h : List.Forall₂ R xs ys)
    (hs : xs'.Sublist xs) : ∃ ys', ys'.Sublist ys ∧ List.Forall₂ R xs' ys' := by
  induction hs generalizing ys with
  | slnil =>
    cases h
    exact ⟨[], .slnil, .nil⟩
  | cons x _ ih =>
    cases h with
    | cons _ h =>
      obtain ⟨ys', hys, h'⟩ := ih h
      exact ⟨ys', hys.cons _, h'⟩
  | cons_cons x _ ih =>
    cases h with
    | cons hxy h =>
      obtain ⟨ys', hys, h'⟩ := ih h
      exact ⟨_, hys.cons_cons _, .cons hxy h'⟩

end DefsGlue
