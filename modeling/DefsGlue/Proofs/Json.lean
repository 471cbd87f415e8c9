import DefsGlue.Json
import Mathlib.Data.List.Basic

/-! A written value tells where it ends, whatever follows it. So of two values that are written
alike at the beginning of a text, each is the other. -/
namespace DefsGlue.Json

variable {α : Type} {c d : Char} {cs ds rest rest' : List Char} {level : Nat} {j j' : Json}

/-- Nothing else is written as `x` is, not even with more text after it. -/
def Delimits (written : α → String) (x : α) : Prop :=
  ∀ y rest rest', (written x).toList ++ rest = (written y).toList ++ rest' → x = y ∧ rest = rest'

/-- The characters that have a letter or themselves for an escape. -/
def shortEscapes : List (Char × Char) :=
  [('"', '"'), ('\\', '\\'), ('\x08', 'b'), ('\t', 't'), ('\n', 'n'), ('\x0c', 'f'), ('\r', 'r')]

/-- What stands for a character inside quotes. -/
inductive Escaped : Char → List Char → Prop
  | plain {c : Char} : c ≠ '"' → c ≠ '\\' → Escaped c [c]
  | short {c mark : Char} : (c, mark) ∈ shortEscapes → Escaped c ['\\', mark]
  | control {c : Char} : c.toNat < 0x20 →
      Escaped c ['\\', 'u', '0', '0', hexDigit (c.toNat / 16), hexDigit (c.toNat % 16)]

theorem escaped_escape (c : Char) : Escaped c (escape c) := by
  unfold escape
  split
  · exact .short (by simp [shortEscapes])
  · exact .short (by simp [shortEscapes])
  · exact .short (by simp [shortEscapes])
  · exact .short (by simp [shortEscapes])
  · exact .short (by simp [shortEscapes])
  · exact .short (by simp [shortEscapes])
  · exact .short (by simp [shortEscapes])
  · next hq hb _ _ _ _ _ =>
    split
    · next hc => exact .control hc
    · exact .plain hq hb

theorem hexDigit_inj : ∀ m < 16, ∀ n < 16, hexDigit m = hexDigit n → m = n := by decide

theorem shortEscapes_mark : ∀ e ∈ shortEscapes, e.2 ≠ 'u' := by decide

theorem shortEscapes_inj : ∀ e ∈ shortEscapes, ∀ e' ∈ shortEscapes, e.2 = e'.2 → e.1 = e'.1 := by
  decide

theorem Escaped.exists_cons (h : Escaped c cs) :
    ∃ first tail, cs = first :: tail ∧ first ≠ '"' := by
  cases h with
  | plain hq _ => exact ⟨_, _, rfl, hq⟩
  | short _ => exact ⟨_, _, rfl, by simp⟩
  | control _ => exact ⟨_, _, rfl, by simp⟩

theorem eq_of_hexDigits (hc : c.toNat < 0x20) (hd : d.toNat < 0x20)
    (high : hexDigit (c.toNat / 16) = hexDigit (d.toNat / 16))
    (low : hexDigit (c.toNat % 16) = hexDigit (d.toNat % 16)) : c = d := by
  have hhigh := hexDigit_inj _ (by omega) _ (by omega) high
  have hlow := hexDigit_inj _ (by omega) _ (by omega) low
  apply Char.toNat_inj.mp
  omega

/-- An escape tells its character and where it ends. -/
theorem Escaped.inj (h : Escaped c cs) (h' : Escaped d ds) (he : cs ++ rest = ds ++ rest') :
    c = d ∧ rest = rest' := by
  -- A plain character is no backslash, and the mark u is in no short escape.
  have hfirst := congrArg List.head? he
  cases h with
  | plain _ hb =>
    cases h' with
    | plain _ _ => simpa using he
    | short _ => exact (hb (by simpa using hfirst)).elim
    | control _ => exact (hb (by simpa using hfirst)).elim
  | short hm =>
    cases h' with
    | plain _ hb => exact (hb (by simpa using hfirst.symm)).elim
    | short hm' =>
      obtain ⟨hmark, rfl⟩ : _ ∧ rest = rest' := by simpa using he
      exact ⟨shortEscapes_inj _ hm _ hm' hmark, rfl⟩
    | control _ =>
      obtain ⟨rfl, -⟩ : _ = 'u' ∧ _ := by simpa using he
      exact (shortEscapes_mark _ hm rfl).elim
  | control hc =>
    cases h' with
    | plain _ hb => exact (hb (by simpa using hfirst.symm)).elim
    | short hm =>
      obtain ⟨rfl, -⟩ : 'u' = _ ∧ _ := by simpa using he
      exact (shortEscapes_mark _ hm rfl).elim
    | control hd =>
      obtain ⟨high, low, rfl⟩ : _ ∧ _ ∧ rest = rest' := by simpa using he
      exact ⟨eq_of_hexDigits hc hd high low, rfl⟩

theorem escapes_inj {xs ys : List Char}
    (h : xs.flatMap escape ++ '"' :: rest = ys.flatMap escape ++ '"' :: rest') :
    xs = ys ∧ rest = rest' := by
  induction xs generalizing ys with
  | nil =>
    cases ys with
    | nil => simpa using h
    | cons y ys =>
      obtain ⟨first, tail, hy, hne⟩ := (escaped_escape y).exists_cons
      simp only [List.flatMap_nil, List.flatMap_cons, hy, List.nil_append, List.cons_append,
        List.cons.injEq] at h
      exact (hne h.1.symm).elim
  | cons x xs ih =>
    cases ys with
    | nil =>
      obtain ⟨first, tail, hx, hne⟩ := (escaped_escape x).exists_cons
      simp only [List.flatMap_nil, List.flatMap_cons, hx, List.nil_append, List.cons_append,
        List.cons.injEq] at h
      exact (hne h.1).elim
    | cons y ys =>
      simp only [List.flatMap_cons, List.append_assoc] at h
      obtain ⟨rfl, htail⟩ := (escaped_escape x).inj (escaped_escape y) h
      obtain ⟨rfl, hrest⟩ := ih htail
      exact ⟨rfl, hrest⟩

theorem delimits_quote (s : String) : Delimits quote s := by
  intro s' rest rest' h
  have hinner : s.toList.flatMap escape ++ '"' :: rest =
      s'.toList.flatMap escape ++ '"' :: rest' := by
    simpa [quote] using h
  obtain ⟨hs, hrest⟩ := escapes_inj hinner
  exact ⟨String.toList_injective hs, hrest⟩

section Enclosed

variable {written : α → String} {left right : String} {close : Char} {xs ys : List α}

/-- What stands in brackets after an item. -/
def remainder (written : α → String) (level : Nat) (right : String) : List α → String
  | [] => newline level ++ right
  | x :: xs => "," ++ (newline (level + 1) ++ written x) ++ remainder written level right xs

theorem intercalate_remainder (written : α → String) (level : Nat) (right : String) (x : α)
    (xs : List α) :
    ",".intercalate (((x :: xs).map written).map (newline (level + 1) ++ ·)) ++ newline level ++
      right = newline (level + 1) ++ written x ++ remainder written level right xs := by
  induction xs generalizing x with
  | nil => simp [remainder, String.append_assoc]
  | cons y ys ih =>
    have h := ih y
    simp only [List.map_cons, String.intercalate_cons_cons, remainder, String.append_assoc] at h ⊢
    rw [h]

theorem enclose_cons (written : α → String) (level : Nat) (left right : String) (x : α)
    (xs : List α) : enclose level left right ((x :: xs).map written) =
      left ++ (newline (level + 1) ++ written x ++ remainder written level right xs) := by
  rw [← intercalate_remainder]
  simp [enclose, String.append_assoc]

theorem toList_newline (level : Nat) :
    (newline level).toList = '\n' :: List.replicate (2 * level) ' ' := by
  simp [newline]

theorem remainder_inj (h : ∀ x ∈ xs, Delimits written x)
    (he : (remainder written level right xs).toList ++ rest =
      (remainder written level right ys).toList ++ rest') : xs = ys ∧ rest = rest' := by
  -- A comma or a line break comes next, so neither list ends before the other.
  induction xs generalizing ys with
  | nil =>
    cases ys with
    | nil => exact ⟨rfl, List.append_cancel_left he⟩
    | cons y ys => simp [remainder, toList_newline] at he
  | cons x xs ih =>
    cases ys with
    | nil => simp [remainder, toList_newline] at he
    | cons y ys =>
      rw [List.forall_mem_cons] at h
      simp only [remainder, String.toList_append, List.append_assoc,
        List.append_cancel_left_eq] at he
      obtain ⟨rfl, htail⟩ := h.1 y _ _ he
      obtain ⟨rfl, hrest⟩ := ih h.2 htail
      exact ⟨rfl, hrest⟩

/-- Brackets delimit the list of what stands in them. -/
theorem enclose_inj (hright : right.toList = [close]) (hclose : close ≠ '\n')
    (h : ∀ x ∈ xs, Delimits written x)
    (he : (enclose level left right (xs.map written)).toList ++ rest =
      (enclose level left right (ys.map written)).toList ++ rest') : xs = ys ∧ rest = rest' := by
  cases xs with
  | nil =>
    cases ys with
    | nil => exact ⟨rfl, List.append_cancel_left he⟩
    | cons y ys =>
      rw [enclose_cons] at he
      simp [enclose, hright, toList_newline, hclose] at he
  | cons x xs =>
    rw [enclose_cons] at he
    cases ys with
    | nil => simp [enclose, hright, toList_newline, hclose.symm] at he
    | cons y ys =>
      rw [enclose_cons] at he
      rw [List.forall_mem_cons] at h
      simp only [String.toList_append, List.append_assoc, List.append_cancel_left_eq] at he
      obtain ⟨rfl, htail⟩ := h.1 y _ _ he
      obtain ⟨rfl, hrest⟩ := remainder_inj h.2 htail
      exact ⟨rfl, hrest⟩

end Enclosed

theorem write_list (level : Nat) (items : List Json) :
    write level (list items) = enclose level "[" "]" (items.map (write (level + 1))) := by
  have hitems : writeItems (level + 1) items = items.map (write (level + 1)) := by
    induction items with
    | nil => simp [writeItems]
    | cons j items ih => simp [writeItems, ih]
  rw [write, hitems]

/-- A field of an object as it is written. -/
def writtenField (level : Nat) (field : String × Json) : String :=
  quote field.1 ++ ": " ++ write level field.2

theorem write_object (level : Nat) (fields : List (String × Json)) :
    write level (object fields) =
      enclose level "\x7b" "\x7d" (fields.map (writtenField (level + 1))) := by
  have hfields : writeFields (level + 1) fields = fields.map (writtenField (level + 1)) := by
    induction fields with
    | nil => simp [writeFields]
    | cons field fields ih => simp [writeFields, writtenField, ih]
  rw [write, hfields]

theorem delimits_writtenField {field : String × Json} (h : Delimits (write level) field.2) :
    Delimits (writtenField level) field := by
  intro field' rest rest' he
  simp only [writtenField, String.toList_append, List.append_assoc] at he
  obtain ⟨hkey, htail⟩ := delimits_quote field.1 field'.1 _ _ he
  obtain ⟨hvalue, hrest⟩ := h field'.2 _ _ (List.append_cancel_left htail)
  exact ⟨Prod.ext hkey hvalue, hrest⟩

/-- The character that a value begins with. -/
def first : Json → Char
  | text _ => '"'
  | bool b => if b then 't' else 'f'
  | list _ => '['
  | object _ => '\x7b'

theorem head_enclose {left : String} {mark : Char} (hleft : left.toList = [mark]) (level : Nat)
    (right : String) (items : List String) :
    (enclose level left right items).toList.head? = some mark := by
  unfold enclose
  split <;> simp [hleft]

theorem head_write (level : Nat) (j : Json) : (write level j).toList.head? = some j.first := by
  cases j with
  | text s => simp [write, quote, first]
  | bool b => cases b <;> simp [write, first]
  | list items =>
    rw [write_list]
    exact head_enclose (show "[".toList = ['['] by simp) _ _ _
  | object fields =>
    rw [write_object]
    exact head_enclose (show "\x7b".toList = ['\x7b'] by simp) _ _ _

/-- Values that are written alike at the beginning of a text begin with one character. -/
theorem first_eq (he : (write level j).toList ++ rest = (write level j').toList ++ rest') :
    j.first = j'.first := by
  have h := congrArg List.head? he
  simpa [List.head?_append, head_write] using h

/-- Induction on values that knows of everything in a list or an object. -/
@[elab_as_elim]
theorem induction {motive : Json → Prop} (text : ∀ s, motive (.text s))
    (bool : ∀ b, motive (.bool b))
    (list : ∀ items, (∀ j ∈ items, motive j) → motive (.list items))
    (object : ∀ fields, (∀ field ∈ fields, motive field.2) → motive (.object fields)) (j : Json) :
    motive j := by
  cases j with
  | text s => exact text s
  | bool b => exact bool b
  | list items => exact list items fun j _ => induction text bool list object j
  | object fields => exact object fields fun field _ => induction text bool list object field.2
termination_by sizeOf j
decreasing_by
  · next hj =>
    have h := List.sizeOf_lt_of_mem hj
    simp_all
    omega
  · next hfield =>
    have h := List.sizeOf_lt_of_mem hfield
    cases field
    simp_all
    omega

theorem eq_text_of_first (h : j.first = '"') : ∃ s, j = text s := by
  cases j with
  | text s => exact ⟨s, rfl⟩
  | bool b => cases b <;> simp [first] at h
  | list _ => simp [first] at h
  | object _ => simp [first] at h

theorem eq_bool_of_first {b : Bool} (h : j.first = (bool b).first) : j = bool b := by
  cases j with
  | text _ => cases b <;> simp [first] at h
  | bool b' => cases b <;> cases b' <;> simp_all [first]
  | list _ => cases b <;> simp [first] at h
  | object _ => cases b <;> simp [first] at h

theorem eq_list_of_first (h : j.first = '[') : ∃ items, j = list items := by
  cases j with
  | text _ => simp [first] at h
  | bool b => cases b <;> simp [first] at h
  | list items => exact ⟨items, rfl⟩
  | object _ => simp [first] at h

theorem eq_object_of_first (h : j.first = '\x7b') : ∃ fields, j = object fields := by
  cases j with
  | text _ => simp [first] at h
  | bool b => cases b <;> simp [first] at h
  | list _ => simp [first] at h
  | object fields => exact ⟨fields, rfl⟩

/-- What is written of a value is written of no other, whatever follows. -/
theorem delimits_write (j : Json) (level : Nat) : Delimits (write level) j := by
  induction j using Json.induction generalizing level with
  | text s =>
    intro j' rest rest' he
    obtain ⟨s', rfl⟩ := eq_text_of_first (first_eq he).symm
    obtain ⟨rfl, hrest⟩ := delimits_quote s s' _ _ (by simpa only [write] using he)
    exact ⟨rfl, hrest⟩
  | bool b =>
    intro j' rest rest' he
    obtain rfl := eq_bool_of_first (first_eq he).symm
    exact ⟨rfl, List.append_cancel_left he⟩
  | list items ih =>
    intro j' rest rest' he
    obtain ⟨items', rfl⟩ := eq_list_of_first (first_eq he).symm
    rw [write_list, write_list] at he
    obtain ⟨rfl, hrest⟩ := enclose_inj (show "]".toList = [']'] by simp) (by simp)
      (fun j hj => ih j hj (level + 1)) he
    exact ⟨rfl, hrest⟩
  | object fields ih =>
    intro j' rest rest' he
    obtain ⟨fields', rfl⟩ := eq_object_of_first (first_eq he).symm
    rw [write_object, write_object] at he
    obtain ⟨rfl, hrest⟩ := enclose_inj (show "\x7d".toList = ['\x7d'] by simp) (by simp)
      (fun field hfield => delimits_writtenField (ih field hfield (level + 1))) he
    exact ⟨rfl, hrest⟩

theorem render_inj (h : j.render = j'.render) : j = j' := by
  have htext : (write 0 j).toList ++ [] = (write 0 j').toList ++ [] :=
    congrArg (·.toList ++ []) h
  exact (delimits_write j 0 j' [] [] htext).1

end DefsGlue.Json
