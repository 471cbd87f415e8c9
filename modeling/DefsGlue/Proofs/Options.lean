import DefsGlue.Options
import DefsGlue.Proofs.Effect
import DefsGlue.Proofs.Text.Longest
import Mathlib.Data.List.Nodup
import Mathlib.Data.List.Perm.Basic

/-! Options and the command lines that set them. Each option has an argument that sets it whatever
stands around it, so the arguments may come in any order; and no command line at all sets options
that would contradict each other or name no file. -/
namespace DefsGlue.Options

open Text (Longest)

/-- Options that can be asked for: the paths are paths, and not both verbose and quiet. -/
structure Valid (o : Options) : Prop where
  input : o.input ≠ ""
  out : o.out? ≠ some ""
  volume : ¬ (o.verbose = true ∧ o.quiet = true)

/-- One option with what it is set to. -/
inductive Setting where
  | out (path : String)
  | summary
  | object (name : String)
  | verbose
  | quiet
deriving DecidableEq, Repr

namespace Setting

/-- The argument that makes the setting, its value behind an equals sign. -/
def text : Setting → String
  | out path => "--out=" ++ path
  | summary => "--summary"
  | object name => "--object=" ++ name
  | verbose => "--verbose"
  | quiet => "--quiet"

/-- The option that is set. -/
def option : Setting → Known
  | out _ => .receiver .out
  | summary => .switch .summary
  | object _ => .receiver .object
  | verbose => .switch .verbose
  | quiet => .switch .quiet

/-- A draft with the setting made. -/
def make (d : Draft) : Setting → Draft
  | out path => { d with out? := some path }
  | summary => { d with summary := true }
  | object name => { d with object? := some name }
  | verbose => { d with verbose := true }
  | quiet => { d with quiet := true }

/-- Whether a draft leaves the option open, and the value is one for it. -/
def Open (d : Draft) : Setting → Prop
  | out path => d.out? = none ∧ path ≠ ""
  | summary => d.summary = false
  | object _ => d.object? = none
  | verbose => d.verbose = false
  | quiet => d.quiet = false

end Setting

/-- What has to be set for the options. -/
def settings (o : Options) : List Setting :=
  (o.out?.map .out).toList ++ (if o.summary then [.summary] else []) ++
    (o.object?.map .object).toList ++ (if o.verbose then [.verbose] else []) ++
    (if o.quiet then [.quiet] else [])

namespace Draft

variable {d e : Draft} {s t : Setting} {order : List Setting} {r : Receiver} {sw : Switch}
  {value arg : String} {args : List String} {cs : List Char}

theorem settle_of_none (h : d.pending? = none) : d.settle = .ok d := by
  simp [settle, h]

theorem assign_of_none (hf : d.value? r = none) (hv : r = .object ∨ value ≠ "") :
    d.assign r value = .ok (d.set value r) := by
  have hkept : (value.isEmpty && r != .object) = false := by
    rcases hv with rfl | hv
    · simp
    · simp [hv]
  simp [assign, hf, hkept]

theorem takeAll_long (h : arg.toList = '-' :: '-' :: cs) (hne : cs ≠ []) :
    d.takeAll (arg :: args) = d.long cs >>= (·.takeAll args) := by
  obtain ⟨c, cs, rfl⟩ := List.exists_cons_of_ne_nil hne
  rw [takeAll, h]
  rfl

/-- The name of a long option ends at the first equals sign. -/
theorem cut_name {name : String} (hn : '=' ∉ name.toList) (hs : ∀ c ∈ cs.head?, c = '=') :
    (name.toList ++ cs).takeWhile (· != '=') = name.toList ∧
      (name.toList ++ cs).dropWhile (· != '=') = cs := by
  have hlong : Longest (· ≠ '=') name.toList cs :=
    ⟨fun c hc he => hn (he ▸ hc), fun c hc hne => hne (hs c hc)⟩
  exact ⟨hlong.takeWhile_eq (by simp), hlong.dropWhile_eq (by simp)⟩

theorem takeAll_flag (name : String) (h : Known.ofLong? name = some (.switch sw))
    (hn : '=' ∉ name.toList) (hp : d.pending? = none) (he : d.flip sw = .ok e) :
    d.takeAll (("--" ++ name) :: args) = e.takeAll args := by
  have hmark : ∀ c ∈ ([] : List Char).head?, c = '=' := by simp
  obtain ⟨ht, hd⟩ := cut_name hn hmark
  have htext : ("--" ++ name).toList = '-' :: '-' :: (name.toList ++ []) := by simp
  have hne : name.toList ++ [] ≠ [] := by
    intro hnil
    rw [String.toList_eq_nil_iff.mp (List.append_eq_nil_iff.mp hnil).1] at h
    cases h
  rw [takeAll_long htext hne]
  simp only [long, ht, hd, String.ofList_toList, h, switchOn, settle_of_none hp]
  change (d.flip sw >>= fun d' => d'.takeAll args) = _
  rw [he]
  rfl

/-- The value goes on to the end of the argument, whatever it holds. -/
theorem takeAll_attached (name : String) (h : Known.ofLong? name = some (.receiver r))
    (hn : '=' ∉ name.toList) (hp : d.pending? = none) (he : d.assign r value = .ok e) :
    d.takeAll (("--" ++ name ++ "=" ++ value) :: args) = e.takeAll args := by
  have hmark : ∀ c ∈ ('=' :: value.toList).head?, c = '=' := by simp
  obtain ⟨ht, hd⟩ := cut_name hn hmark
  have htext : ("--" ++ name ++ "=" ++ value).toList =
      '-' :: '-' :: (name.toList ++ '=' :: value.toList) := by simp
  rw [takeAll_long htext (by simp)]
  simp only [long, ht, hd, String.ofList_toList, h, attach, settle_of_none hp]
  change (d.assign r value >>= fun d' => d'.takeAll args) = _
  rw [he]
  rfl

/-- A setting is made at its argument. -/
theorem takeAll_setting (hp : d.pending? = none) (ho : s.Open d) :
    d.takeAll (s.text :: args) = (s.make d).takeAll args := by
  cases s with
  | out path =>
    exact takeAll_attached "out" rfl (by decide) hp (assign_of_none ho.1 (.inr ho.2))
  | object name => exact takeAll_attached "object" rfl (by decide) hp (assign_of_none ho (.inl rfl))
  | summary => exact takeAll_flag "summary" rfl (by decide) hp (if_neg (by simp_all [Setting.Open]))
  | verbose => exact takeAll_flag "verbose" rfl (by decide) hp (if_neg (by simp_all [Setting.Open]))
  | quiet => exact takeAll_flag "quiet" rfl (by decide) hp (if_neg (by simp_all [Setting.Open]))

theorem pending_make (s : Setting) (d : Draft) : (s.make d).pending? = d.pending? := by
  cases s <;> rfl

/-- A setting leaves the other options open. -/
theorem open_make (h : s.option ≠ t.option) : t.Open (s.make d) ↔ t.Open d := by
  cases s <;> cases t <;> simp_all [Setting.option, Setting.Open, Setting.make]

theorem make_comm (h : s.option ≠ t.option) : t.make (s.make d) = s.make (t.make d) := by
  cases s <;> cases t <;> simp_all [Setting.option, Setting.make]

/-- Settings of different options are made one after the other. -/
theorem takeAll_settings (hp : d.pending? = none) (ho : ∀ s ∈ order, s.Open d)
    (hd : (order.map Setting.option).Nodup) :
    d.takeAll (order.map Setting.text ++ args) = (order.foldl Setting.make d).takeAll args := by
  induction order generalizing d with
  | nil => rfl
  | cons s order ih =>
    rw [List.map_cons, List.nodup_cons] at hd
    obtain ⟨hs, hrest⟩ := List.forall_mem_cons.mp ho
    have hopen : ∀ t ∈ order, t.Open (s.make d) := by
      intro t ht
      have hne : s.option ≠ t.option := fun he => hd.1 (he ▸ List.mem_map_of_mem ht)
      exact (open_make hne).mpr (hrest t ht)
    rw [List.map_cons, List.cons_append, takeAll_setting hp hs, List.foldl_cons]
    exact ih ((pending_make s d).trans hp) hopen hd.2

/-- After two dashes the input may begin as it likes. -/
theorem takeAll_input (hp : d.pending? = none) (hi : d.input? = none) (input : String) :
    d.takeAll ["--", input] = .ok { d with pending? := some ⟨.input, some input⟩ } := by
  have htext : "--".toList = ['-', '-'] := rfl
  rw [takeAll, htext]
  simp [positional, hp, hi, settle_of_none hp, bind, Except.bind, pure, Except.pure]

theorem finish_of_pending {input : String} (hp : d.pending? = some ⟨.input, some input⟩)
    (hi : d.input? = none) (hne : input ≠ "") (hv : ¬ (d.verbose = true ∧ d.quiet = true)) :
    d.finish = .ok ⟨input, d.out?, d.summary, d.object?, d.verbose, d.quiet⟩ := by
  have hsettle : d.settle = .ok { d with input? := some input, pending? := none } := by
    simp only [settle, hp]
    exact assign_of_none hi (.inr hne)
  have hvolume : (d.verbose && d.quiet) = false := by simpa using hv
  rw [finish, hsettle]
  simp [bind, Except.bind, hvolume, pure, Except.pure]

end Draft

section Settings

variable {o : Options} {s t : Setting} {order : List Setting}

theorem nodup_settings (o : Options) : (o.settings.map Setting.option).Nodup := by
  obtain ⟨input, out?, summary, object?, verbose, quiet⟩ := o
  cases out? <;> cases summary <;> cases object? <;> cases verbose <;> cases quiet <;>
    simp [settings, Setting.option]

theorem open_of_mem_settings (hv : o.Valid) (h : s ∈ o.settings) : s.Open .empty := by
  have hout : ∀ path, o.out? = some path → path ≠ "" := by
    rintro path hpath rfl
    exact hv.out hpath
  cases s <;> simp_all [settings, Setting.Open, Draft.empty]

/-- In the order in which the options list them, the settings fill in all but the input. -/
theorem make_settings (o : Options) : o.settings.foldl Setting.make .empty =
    ⟨none, o.out?, o.object?, o.summary, o.verbose, o.quiet, none⟩ := by
  obtain ⟨input, out?, summary, object?, verbose, quiet⟩ := o
  cases out? <;> cases summary <;> cases object? <;> cases verbose <;> cases quiet <;> rfl

theorem foldl_make_of_perm (h : order.Perm o.settings) (d : Draft) :
    order.foldl Setting.make d = o.settings.foldl Setting.make d := by
  have hnodup : (order.map Setting.option).Nodup :=
    (h.map Setting.option).nodup_iff.mpr (nodup_settings o)
  refine h.foldl_eq' (fun s hs t ht d => ?_) d
  by_cases he : s.option = t.option
  · rw [List.inj_on_of_nodup_map hnodup hs ht he]
  · exact Draft.make_comm he

theorem parse_settings (hv : o.Valid) (h : order.Perm o.settings) :
    parse (order.map Setting.text ++ ["--", o.input]) = .ok o := by
  have hopen : ∀ s ∈ order, s.Open .empty := fun s hs => open_of_mem_settings hv (h.mem_iff.mp hs)
  have hnodup : (order.map Setting.option).Nodup :=
    (h.map Setting.option).nodup_iff.mpr (nodup_settings o)
  rw [parse, Draft.takeAll_settings rfl hopen hnodup, foldl_make_of_perm h, make_settings,
    Draft.takeAll_input rfl rfl]
  exact Draft.finish_of_pending rfl rfl hv.input hv.volume

end Settings

namespace Draft

variable {d e : Draft} {o : Options} {r : Receiver} {value arg : String} {args : List String}
  {cs : List Char}

/-- No path that is gathered so far is empty. -/
def Sound (d : Draft) : Prop := ∀ r, r ≠ .object → d.value? r ≠ some ""

theorem Sound.pending (h : d.Sound) (p : Option Assignment) : ({ d with pending? := p }).Sound := by
  intro r hr
  cases r <;> exact h _ hr

theorem Sound.assign (h : d.Sound) (he : d.assign r value = .ok e) : e.Sound := by
  obtain ⟨-, he⟩ := of_guard_ok he
  obtain ⟨hvalue, he⟩ := of_guard_ok he
  obtain rfl := Except.ok.inj he
  intro r' hr'
  have hother := h r' hr'
  cases r <;> cases r' <;> simp_all [set, value?]

theorem Sound.settle (h : d.Sound) (he : d.settle = .ok e) : e.Sound := by
  unfold Draft.settle at he
  split at he
  · exact Except.ok.inj he ▸ h
  · cases he
  · exact (h.pending none).assign he

theorem Sound.flip (h : d.Sound) {sw : Switch} (he : d.flip sw = .ok e) : e.Sound := by
  cases sw with
  | help => cases he
  | _ =>
    obtain ⟨-, he⟩ := of_guard_ok he
    obtain rfl := Except.ok.inj he
    intro r hr
    cases r <;> exact h _ hr

theorem Sound.await (h : d.Sound) (he : d.await r = .ok e) : e.Sound := by
  obtain ⟨d', hd, he⟩ := exists_of_bind_ok he
  obtain rfl := Except.ok.inj he
  exact (h.settle hd).pending _

theorem Sound.attach (h : d.Sound) (he : d.attach r value = .ok e) : e.Sound := by
  obtain ⟨d', hd, he⟩ := exists_of_bind_ok he
  exact (h.settle hd).assign he

theorem Sound.switchOn (h : d.Sound) {sw : Switch} (he : d.switchOn sw = .ok e) : e.Sound := by
  obtain ⟨d', hd, he⟩ := exists_of_bind_ok he
  exact (h.settle hd).flip he

theorem Sound.positional (h : d.Sound) (he : d.positional value = .ok e) : e.Sound := by
  obtain ⟨-, he⟩ := of_guard_ok he
  obtain ⟨d', hd, he⟩ := exists_of_bind_ok he
  obtain rfl := Except.ok.inj he
  exact (h.settle hd).pending _

theorem Sound.plain (h : d.Sound) (he : d.plain value = .ok e) : e.Sound := by
  unfold Draft.plain at he
  split at he
  · exact Except.ok.inj he ▸ h.pending _
  · exact h.positional he

theorem Sound.long (h : d.Sound) (he : d.long cs = .ok e) : e.Sound := by
  simp only [Draft.long] at he
  split at he
  · cases he
  · exact h.await he
  · exact h.attach he
  · exact h.switchOn he
  · cases he

theorem Sound.short (h : d.Sound) (he : d.short cs = .ok e) : e.Sound := by
  induction cs generalizing d with
  | nil => exact Except.ok.inj he ▸ h
  | cons c cs ih =>
    rw [Draft.short] at he
    split at he
    · cases he
    · obtain ⟨d', hd, he⟩ := exists_of_bind_ok he
      exact ih (h.switchOn hd) he
    · split at he
      · exact h.await he
      · exact h.attach he

theorem Sound.positionals (h : d.Sound) (he : args.foldlM Draft.positional d = .ok e) :
    e.Sound := by
  induction args generalizing d with
  | nil => exact Except.ok.inj he ▸ h
  | cons arg args ih =>
    rw [List.foldlM_cons] at he
    obtain ⟨d', hd, he⟩ := exists_of_bind_ok he
    exact ih (h.positional hd) he

theorem Sound.takeAll (h : d.Sound) (he : d.takeAll args = .ok e) : e.Sound := by
  induction args generalizing d with
  | nil => exact Except.ok.inj he ▸ h
  | cons arg args ih =>
    rw [Draft.takeAll] at he
    split at he
    · exact h.positionals he
    · obtain ⟨d', hd, he⟩ := exists_of_bind_ok he
      exact ih (h.long hd) he
    · obtain ⟨d', hd, he⟩ := exists_of_bind_ok he
      exact ih (h.short hd) he
    · obtain ⟨d', hd, he⟩ := exists_of_bind_ok he
      exact ih (h.plain hd) he

theorem Sound.finish (h : d.Sound) (ho : d.finish = .ok o) : o.Valid := by
  obtain ⟨d', hd, ho⟩ := exists_of_bind_ok ho
  have hsound := h.settle hd
  cases hvolume : d'.verbose && d'.quiet with
  | true =>
    rw [hvolume] at ho
    cases ho
  | false =>
    rw [hvolume] at ho
    cases hinput : d'.input? with
    | none =>
      rw [hinput] at ho
      cases ho
    | some input =>
      rw [hinput] at ho
      obtain rfl := Except.ok.inj ho
      refine ⟨?_, hsound .out (by decide), by simpa using hvolume⟩
      rintro rfl
      exact hsound .input (by decide) hinput

end Draft

theorem valid_of_parse {args : List String} {o : Options} (h : parse args = .ok o) : o.Valid := by
  obtain ⟨d, hd, ho⟩ := exists_of_bind_ok h
  have hempty : Draft.empty.Sound := by
    intro r _
    cases r <;> simp [Draft.empty, Draft.value?]
  exact (hempty.takeAll hd).finish ho

/-- Valid options are read back from the arguments that set them, in whatever order these come
before the input; and what is read is valid, whatever the arguments are. -/
theorem parse_round_trip :
    (∀ (o : Options) (order : List Setting), o.Valid → order.Perm o.settings →
      parse (order.map Setting.text ++ ["--", o.input]) = .ok o) ∧
    ∀ args o, parse args = .ok o → o.Valid :=
  ⟨fun _ _ hv h => parse_settings hv h, fun _ _ h => valid_of_parse h⟩

/-- An input that looks like a flag, and values with equals signs, dashes and blanks. -/
theorem parse_round_trip_shuffled :
    let o : Options := ⟨"-q", some "=a b", true, some "--out=x", true, false⟩
    let order : List Setting := [.verbose, .object "--out=x", .summary, .out "=a b"]
    o.Valid ∧ order.Perm o.settings ∧
    parse ["--verbose", "--object=--out=x", "--summary", "--out==a b", "--", "-q"] = .ok o ∧
    parse ["-vo", "-", "in"] = .ok ⟨"in", some "-", false, none, true, false⟩ ∧
    (⟨"in", some "-", false, none, true, false⟩ : Options).Valid := by
  intro o order
  obtain ⟨hround, hvalid⟩ := parse_round_trip
  have hv : o.Valid := ⟨by decide, by decide, by decide⟩
  have horder : order.Perm o.settings := by decide
  have hgrouped : parse ["-vo", "-", "in"] = .ok ⟨"in", some "-", false, none, true, false⟩ := by
    decide +kernel
  exact ⟨hv, horder, hround o order hv horder, hgrouped, hvalid _ _ hgrouped⟩

end DefsGlue.Options
