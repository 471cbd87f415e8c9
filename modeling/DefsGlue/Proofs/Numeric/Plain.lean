import DefsGlue.Numeric.Decimal
import DefsGlue.Proofs.Text.Longest

/-! Plain decimals as a grammar, and its agreement with the reader of decimals. -/
namespace DefsGlue.Decimal

def Digits (cs : List Char) : Prop := ∀ c ∈ cs, c.isDigit = true

inductive Sign : List Char → Bool → Prop
  | none : Sign [] false
  | plus : Sign ['+'] false
  | minus : Sign ['-'] true

/-- An optional sign and digits, with or without a point and more digits, or a point and digits. A
sign never stands right before the point. -/
inductive Plain : List Char → Decimal → Prop
  | whole {sign digits : List Char} {negative : Bool} :
      Sign sign negative → Digits digits → digits ≠ [] →
      Plain (sign ++ digits) ⟨negative, digitsValue digits, 0⟩
  | point {sign digits fraction : List Char} {negative : Bool} :
      Sign sign negative → Digits digits → digits ≠ [] → Digits fraction →
      Plain (sign ++ (digits ++ '.' :: fraction))
        ⟨negative, digitsValue (digits ++ fraction), fraction.length⟩
  | fraction {fraction : List Char} : Digits fraction → fraction ≠ [] →
      Plain ('.' :: fraction) ⟨false, digitsValue fraction, fraction.length⟩

/-- What a numeric run begins with: a digit, or a sign or point right before one. -/
inductive NumberStart : List Char → Prop
  | digit {c : Char} {cs : List Char} : c.isDigit = true → NumberStart (c :: cs)
  | mark {c d : Char} {cs : List Char} :
      c = '+' ∨ c = '-' ∨ c = '.' → d.isDigit = true → NumberStart (c :: d :: cs)

variable {c : Char} {cs digits fraction sign : List Char} {d : Decimal} {negative : Bool}

theorem isDigit_ne (h : c.isDigit = true) : c ≠ '+' ∧ c ≠ '-' ∧ c ≠ '.' := by
  refine ⟨?_, ?_, ?_⟩ <;> rintro rfl <;> simp [Char.isDigit] at h

theorem Digits.longest (h : Digits digits) (hs : ∀ c ∈ cs.head?, c.isDigit = false) :
    Text.Longest (·.isDigit = true) digits cs :=
  ⟨h, fun c hc => by simp [hs c hc]⟩

theorem unsigned?_whole (h : Digits digits) (hne : digits ≠ []) :
    unsigned? negative digits = some ⟨negative, digitsValue digits, 0⟩ := by
  have hl : Text.Longest (·.isDigit = true) digits [] := h.longest (by simp)
  have ht := hl.takeWhile_eq (q := Char.isDigit) (fun _ => Iff.rfl)
  have hd := hl.dropWhile_eq (q := Char.isDigit) (fun _ => Iff.rfl)
  rw [List.append_nil] at ht hd
  simp [unsigned?, ht, hd, hne]

theorem unsigned?_point (h : Digits digits) (hf : Digits fraction)
    (hne : digits ≠ [] ∨ fraction ≠ []) :
    unsigned? negative (digits ++ '.' :: fraction) =
      some ⟨negative, digitsValue (digits ++ fraction), fraction.length⟩ := by
  have hl : Text.Longest (·.isDigit = true) digits ('.' :: fraction) :=
    h.longest (by simp [Char.isDigit])
  have ht := hl.takeWhile_eq (q := Char.isDigit) (fun _ => Iff.rfl)
  have hd := hl.dropWhile_eq (q := Char.isDigit) (fun _ => Iff.rfl)
  have hall : fraction.all Char.isDigit = true := List.all_eq_true.mpr hf
  simp only [unsigned?, ht, hd, hall]
  rcases hne with hne | hne <;> simp [hne]

/-- The two shapes of an unsigned decimal, and what they are worth. -/
theorem unsigned?_cases (h : unsigned? negative cs = some d) :
    (Digits cs ∧ cs ≠ [] ∧ d = ⟨negative, digitsValue cs, 0⟩) ∨
      ∃ digits fraction, cs = digits ++ '.' :: fraction ∧ Digits digits ∧ Digits fraction ∧
        (digits ≠ [] ∨ fraction ≠ []) ∧
        d = ⟨negative, digitsValue (digits ++ fraction), fraction.length⟩ := by
  have hsplit := List.takeWhile_append_dropWhile (p := Char.isDigit) (l := cs)
  have hdigits : Digits (cs.takeWhile Char.isDigit) :=
    (Text.longest_takeWhile (fun _ => Iff.rfl) cs).within
  simp only [unsigned?] at h
  split at h
  · next hdrop =>
    rw [hdrop, List.append_nil] at hsplit
    rw [hsplit] at h hdigits
    split at h
    · cases h
    · next hne => exact Or.inl ⟨hdigits, by simpa using hne, (Option.some.inj h).symm⟩
  · next fraction hdrop =>
    rw [hdrop] at hsplit
    split at h
    · next hcond =>
      simp only [Bool.and_eq_true, List.all_eq_true, Bool.not_eq_true', Bool.and_eq_false_iff,
        List.isEmpty_eq_false_iff] at hcond
      exact Or.inr ⟨_, fraction, hsplit.symm, hdigits, hcond.1, hcond.2, (Option.some.inj h).symm⟩
    · cases h
  · cases h

theorem ofChars?_unsigned (hp : cs.head? ≠ some '+') (hm : cs.head? ≠ some '-') :
    ofChars? cs = unsigned? false cs := by
  unfold ofChars?
  split
  · exact (hp rfl).elim
  · exact (hm rfl).elim
  · rfl

theorem ofChars?_sign (hs : Sign sign negative) (hc : ∀ c ∈ cs.head?, c.isDigit = true) :
    ofChars? (sign ++ cs) = unsigned? negative cs := by
  cases hs with
  | none =>
    apply ofChars?_unsigned
    · intro h
      exact (isDigit_ne (hc _ h)).1 rfl
    · intro h
      exact (isDigit_ne (hc _ h)).2.1 rfl
  | plus => rfl
  | minus => rfl

theorem Digits.head (h : Digits digits) (hne : digits ≠ []) :
    ∀ c ∈ (digits ++ cs).head?, c.isDigit = true := by
  obtain ⟨x, digits, rfl⟩ := List.exists_cons_of_ne_nil hne
  simpa using h x (by simp)

theorem ofChars?_of_plain (h : Plain cs d) : ofChars? cs = some d := by
  cases h with
  | @whole _ digits _ hs hd hne =>
    have hc : ∀ c ∈ (digits ++ []).head?, c.isDigit = true := hd.head hne
    rw [List.append_nil] at hc
    rw [ofChars?_sign hs hc]
    exact unsigned?_whole hd hne
  | point hs hd hne hf =>
    rw [ofChars?_sign hs (hd.head hne)]
    exact unsigned?_point hd hf (Or.inl hne)
  | fraction hf hne =>
    have hd : Digits [] := by simp [Digits]
    rw [ofChars?_unsigned (by simp) (by simp)]
    exact unsigned?_point hd hf (Or.inr hne)

/-- A decimal after a sign is plain if it begins with a digit. -/
theorem plain_of_unsigned? (hs : Sign sign negative) (hc : ∀ c ∈ cs.head?, c.isDigit = true)
    (h : unsigned? negative cs = some d) : Plain (sign ++ cs) d := by
  rcases unsigned?_cases h with ⟨hd, hne, rfl⟩ | ⟨digits, fraction, rfl, hd, hf, -, rfl⟩
  · exact .whole hs hd hne
  · refine .point hs hd ?_ hf
    rintro rfl
    exact (isDigit_ne (hc '.' rfl)).2.2 rfl

theorem plain_of_point (h : unsigned? false ('.' :: cs) = some d) : Plain ('.' :: cs) d := by
  rcases unsigned?_cases h with ⟨hd, -, -⟩ | ⟨digits, fraction, he, hd, hf, hne, rfl⟩
  · exact ((isDigit_ne (hd '.' (by simp))).2.2 rfl).elim
  · cases digits with
    | nil =>
      obtain rfl := (List.cons.inj he).2
      exact .fraction hf (by simpa using hne)
    | cons x digits =>
      obtain rfl := (List.cons.inj he).1
      exact ((isDigit_ne (hd '.' (by simp))).2.2 rfl).elim

/-- On a numeric run the reader of decimals knows the plain ones and no others. -/
theorem plain_of_ofChars? (hn : NumberStart cs) (h : ofChars? cs = some d) : Plain cs d := by
  cases hn with
  | @digit c cs hc =>
    have hc' : ∀ x ∈ (c :: cs).head?, x.isDigit = true := by simpa using hc
    exact plain_of_unsigned? .none hc' ((ofChars?_sign .none hc').symm.trans h)
  | @mark _ x cs hc hx =>
    have hx' : ∀ y ∈ (x :: cs).head?, y.isDigit = true := by simpa using hx
    rcases hc with rfl | rfl | rfl
    · exact plain_of_unsigned? .plus hx' h
    · exact plain_of_unsigned? .minus hx' h
    · exact plain_of_point h

theorem ofChars?_eq_none_iff (hn : NumberStart cs) : ofChars? cs = none ↔ ∀ d, ¬ Plain cs d := by
  constructor
  · intro h d hd
    simp [ofChars?_of_plain hd] at h
  · intro h
    cases ho : ofChars? cs with
    | none => rfl
    | some d => exact (h d (plain_of_ofChars? hn ho)).elim

theorem numberStart_digits (hs : Sign sign negative) (hd : Digits digits) (hne : digits ≠ []) :
    NumberStart (sign ++ (digits ++ cs)) := by
  obtain ⟨x, digits, rfl⟩ := List.exists_cons_of_ne_nil hne
  have hx : x.isDigit = true := hd x (by simp)
  cases hs with
  | none => exact .digit hx
  | plus => exact .mark (Or.inl rfl) hx
  | minus => exact .mark (Or.inr (Or.inl rfl)) hx

/-- A plain decimal begins the way a numeric run does. -/
theorem numberStart_of_plain (h : Plain cs d) : NumberStart cs := by
  cases h with
  | @whole sign digits _ hs hd hne =>
    have h : NumberStart (sign ++ (digits ++ [])) := numberStart_digits hs hd hne
    rwa [List.append_nil] at h
  | point hs hd hne _ => exact numberStart_digits hs hd hne
  | fraction hf hne =>
    obtain ⟨x, fraction, rfl⟩ := List.exists_cons_of_ne_nil hne
    exact .mark (Or.inr (Or.inr rfl)) (hf x (by simp))

theorem NumberStart.append (h : NumberStart cs) (rest : List Char) : NumberStart (cs ++ rest) := by
  cases h with
  | digit hc => exact .digit hc
  | mark hc hd => exact .mark hc hd

/-- A longest run of a class with all digits begins a number by its own characters, if at all. -/
theorem numberStart_of_longest {p : Char → Prop} {rest : List Char}
    (hp : ∀ c, c.isDigit = true → p c) (hl : Text.Longest p cs rest) (hne : cs ≠ [])
    (h : NumberStart (cs ++ rest)) : NumberStart cs := by
  obtain ⟨c, cs, rfl⟩ := List.exists_cons_of_ne_nil hne
  rw [List.cons_append] at h
  generalize ht : cs ++ rest = tail at h
  cases h with
  | digit hc => exact .digit hc
  | @mark _ d tail hc hd =>
    cases cs with
    | nil =>
      rw [List.nil_append] at ht
      exact (hl.stop d (by simp [ht]) (hp d hd)).elim
    | cons x cs =>
      obtain rfl := (List.cons.inj ht).1
      exact .mark hc hd

end DefsGlue.Decimal
