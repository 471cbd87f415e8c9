import DefsGlue.Proofs.Catalogue.Action
import Mathlib.Data.List.Dedup
import Mathlib.Data.List.Perm.Subperm
import Mathlib.Logic.Relation

/-! A load as a run over an agenda of actions. An opened file puts its records first on the agenda,
and a record that includes a file puts that file there. -/
namespace DefsGlue

namespace FileTree

/-- The places of the files in a tree, each once. -/
def files (t : FileTree) : List Location :=
  ((t.entries.map (·.1)).filter fun l => !t.isDirectory l).dedup

theorem mem_files_of_textAt {t : FileTree} {l : Location} {text : String}
    (h : t.textAt l = .ok text) : l ∈ t.files := by
  have hd : t.isDirectory l = false := by
    unfold textAt at h
    unfold isDirectory
    split at h <;> simp_all
  obtain ⟨e, he, rfl⟩ := mem_of_textAt h
  rw [files, List.mem_dedup, List.mem_filter]
  exact ⟨List.mem_map_of_mem he, by simp [hd]⟩

end FileTree

namespace Catalogue

/-- What an action puts first on the agenda. -/
def unfolding (t : FileTree) (c : Catalogue) : Action → List Action
  | .follow path =>
    match t.opening c.including path with
    | .ok (_, rs) => rs.map (.record path) ++ [.leave]
    | .error _ => []
  | .record source r => ((r.included? source).map .follow).toList
  | .leave => []

structure State where
  catalogue : Catalogue
  agenda : List Action

def Work.agenda : Work → List Action
  | .file path => [.follow path]
  | .records source rs => rs.map (.record source)

/-- One action is performed. A run is stuck when its agenda is empty or its next action fails. -/
inductive Step (t : FileTree) : State → State → Prop
  | perform {c c' : Catalogue} {a : Action} {agenda : List Action} :
      c.perform t a = .ok c' → Step t ⟨c, a :: agenda⟩ ⟨c', unfolding t c a ++ agenda⟩

def Run (t : FileTree) : State → State → Prop := Relation.ReflTransGen (Step t)

/-- The failure of the next action. -/
def State.failure? (t : FileTree) (s : State) : Option Failure :=
  s.agenda.head?.bind fun a =>
    match s.catalogue.perform t a with
    | .ok _ => none
    | .error f => some f

def State.Stuck (t : FileTree) (s : State) : Prop := ∀ s', ¬ Step t s s'

variable {t : FileTree} {path source : String} {c c' c₁ : Catalogue} {l : Location} {w : Work}
  {r : Record} {rs : List Record} {f : Failure} {f? : Option Failure} {a : Action}
  {agenda : List Action} {s s' s₁ : State}

theorem step_unique (h : Step t s s') (h' : Step t s s₁) : s' = s₁ := by
  cases h with
  | perform hp =>
    cases h' with
    | perform hp' =>
      obtain rfl := Except.ok.inj (hp.symm.trans hp')
      rfl

theorem stuck_nil : State.Stuck t ⟨c, []⟩ := by
  intro s' h
  cases h

theorem stuck_of_error (h : c.perform t a = .error f) : State.Stuck t ⟨c, a :: agenda⟩ := by
  intro s' hs
  cases hs with
  | perform hp => cases h.symm.trans hp

theorem failure_of_error (h : c.perform t a = .error f) :
    State.failure? t ⟨c, a :: agenda⟩ = some f := by
  simp [State.failure?, h]

theorem failure_eq_some (h : s.failure? t = some f) :
    ∃ a agenda, s.agenda = a :: agenda ∧ s.catalogue.perform t a = .error f := by
  obtain ⟨c, agenda⟩ := s
  cases agenda with
  | nil => cases h
  | cons a agenda =>
    refine ⟨a, agenda, rfl, ?_⟩
    simp only [State.failure?, List.head?_cons, Option.bind_some] at h
    cases ha : c.perform t a with
    | ok c' => simp [ha] at h
    | error f' => simpa [ha] using h

/-- Two runs that are stuck have come to the same end. -/
theorem stuck_unique (h : Run t s s') (h' : Run t s s₁) (hs : s'.Stuck t) (hs₁ : s₁.Stuck t) :
    s' = s₁ := by
  have hu : Relator.RightUnique (Step t) := fun _ _ _ h h' => step_unique h h'
  rcases Relation.ReflTransGen.total_of_right_unique hu h h' with hr | hr
  · cases hr.cases_head with
    | inl he => exact he
    | inr hx =>
      obtain ⟨x, hx, -⟩ := hx
      exact (hs x hx).elim
  · cases hr.cases_head with
    | inl he => exact he.symm
    | inr hx =>
      obtain ⟨x, hx, -⟩ := hx
      exact (hs₁ x hx).elim

/-- A run that gets stuck shows that every run from its start ends. -/
theorem acc_of_stuck (h : Run t s s') (hs : s'.Stuck t) : Acc (fun x y => Step t y x) s := by
  induction h using Relation.ReflTransGen.head_induction_on with
  | refl => exact ⟨_, fun x hx => (hs x hx).elim⟩
  | head hstep _ ih =>
    refine ⟨_, fun x hx => ?_⟩
    rw [step_unique hx hstep]
    exact ih

/-- How a run ends that has work before the rest of its agenda: with the rest left to do, or stuck
on a failure. The work is then left with the files open that were open before. -/
inductive Halts (t : FileTree) (s : State) (rest : List Action) (reading : List Location) :
    Catalogue → Option Failure → Prop
  | done {c' : Catalogue} : Run t s ⟨c', rest⟩ → Halts t s rest reading c' none
  | failed {c₁ : Catalogue} {a : Action} {agenda : List Action} {f : Failure} :
      Run t s ⟨c₁, a :: agenda⟩ → c₁.perform t a = .error f →
      Halts t s rest reading { c₁ with including := reading } (some f)

variable {rest : List Action} {reading : List Location}

theorem Halts.after (h : Run t s s₁) (h' : Halts t s₁ rest reading c' f?) :
    Halts t s rest reading c' f? := by
  cases h' with
  | done hr => exact .done (h.trans hr)
  | failed hr ha => exact .failed (h.trans hr) ha

theorem run_perform (h : c.perform t a = .ok c') (agenda : List Action) :
    Run t ⟨c, a :: agenda⟩ ⟨c', unfolding t c a ++ agenda⟩ :=
  Relation.ReflTransGen.single (.perform h)

theorem unfolding_follow (h : t.opening c.including path = .ok (l, rs)) :
    unfolding t c (.follow path) = Work.agenda (.records path rs) ++ [.leave] := by
  simp [unfolding, h, Work.agenda]

/-- A record that is no include is performed and gone. -/
theorem run_record (hi : r.included? source = none) (hr : c.register source r = .ok c') :
    Run t ⟨c, .record source r :: agenda⟩ ⟨c', agenda⟩ := by
  have h := run_perform (t := t) (perform_record hr) agenda
  simpa [unfolding, hi] using h

theorem run_include (hi : r.included? source = some path) (hr : c.register source r = .ok c) :
    Run t ⟨c, .record source r :: agenda⟩ ⟨c, .follow path :: agenda⟩ := by
  have h := run_perform (t := t) (perform_record hr) agenda
  simpa [unfolding, hi] using h

/-- A run does what a load does. -/
theorem Loads.halts (h : Loads t w c c' f?) (rest : List Action) :
    Halts t ⟨c, w.agenda ++ rest⟩ rest c.including c' f? := by
  -- The rest is any: inside a file it begins with leaving that file, and before the records that
  -- follow an include it is those.
  induction h generalizing rest with
  | refused ha => exact .failed .refl (perform_follow_refused ha)
  | @opened path c c' l rs f? ha hl ih =>
    have hin := run_perform (perform_follow ha) rest
    rw [unfolding_follow ha, List.append_assoc] at hin
    have hrec := ih ([.leave] ++ rest)
    cases hrec with
    | done hr =>
      have hout : c'.perform t .leave = .ok c'.leave := rfl
      exact .done (hin.trans (hr.trans (run_perform hout rest)))
    | failed hr hf =>
      have hend : Halts t _ rest c.including _ _ := .failed (hin.trans hr) hf
      simpa [leave, enter, Work.agenda] using hend
  | nil => exact .done .refl
  | @skip _ c _ _ _ _ hd _ ih =>
    obtain ⟨hi, hr⟩ := register_skip hd c
    exact (ih rest).after (run_record hi hr)
  | @add _ c _ _ _ _ _ hd _ ih =>
    obtain ⟨hi, hr⟩ := register_add hd c
    have hrec := ih rest
    rw [including_add] at hrec
    exact hrec.after (run_record hi hr)
  | @reject source c r _ _ hd =>
    obtain ⟨-, hr⟩ := register_reject hd c
    exact .failed .refl (a := .record source r) hr
  | @follow source path c _ _ _ rs _ hd hf _ ihf ih =>
    obtain ⟨hi, hr⟩ := register_follow hd c
    have hfile := ihf (Work.agenda (.records source rs) ++ rest)
    have hrec := ih rest
    rw [hf.including_eq] at hrec
    cases hfile with
    | done hrun => exact hrec.after ((run_include hi hr).trans hrun)
  | @stop source _ c _ _ rs _ hd _ ih =>
    obtain ⟨hi, hr⟩ := register_follow hd c
    have hfile := ih (Work.agenda (.records source rs) ++ rest)
    cases hfile with
    | failed hrun hf => exact .failed ((run_include hi hr).trans hrun) hf

/-- A load ends where the run of its work gets stuck. -/
theorem load_run (t : FileTree) (w : Work) (c : Catalogue) :
    ∃ s, Run t ⟨c, w.agenda⟩ s ∧ s.Stuck t ∧ s.failure? t = (load t w c rfl).failure? ∧
      { s.catalogue with including := c.including } = (load t w c rfl).catalogue := by
  have h := (loads_load t w c).halts []
  have hc := (load t w c rfl).including_eq
  generalize (load t w c rfl).catalogue = c' at h hc ⊢
  generalize (load t w c rfl).failure? = f? at h ⊢
  rw [List.append_nil] at h
  cases h with
  | done hr =>
    rw [← hc]
    exact ⟨_, hr, stuck_nil, rfl, rfl⟩
  | failed hr hf => exact ⟨_, hr, stuck_of_error hf, failure_of_error hf, rfl⟩

/-- The files being read are distinct files of the tree. -/
structure Stacked (t : FileTree) (reading : List Location) : Prop where
  distinct : reading.Nodup
  listed : reading ⊆ t.files

theorem Stacked.length_le (h : Stacked t reading) : reading.length ≤ t.files.length :=
  (List.subperm_of_subset h.distinct h.listed).length_le

theorem stacked_nil : Stacked t [] := ⟨List.nodup_nil, List.nil_subset _⟩

theorem register_including (h : c.register source r = .ok c') : c'.including = c.including := by
  have hr := register_ok h
  cases hd : r.definition? with
  | none => simp [hr, hd]
  | some d => simp [hr, hd]

theorem stacked_perform (h : c.perform t a = .ok c') (hs : Stacked t c.including) :
    Stacked t c'.including := by
  cases a with
  | follow path =>
    simp only [perform] at h
    split at h
    · next l rs ha =>
      obtain ⟨-, hl, text, ht, -⟩ := FileTree.opening_ok ha
      cases h
      constructor
      · rw [including_enter, ← List.concat_eq_append]
        exact hs.distinct.concat hl
      · rw [including_enter, List.append_subset]
        exact ⟨hs.listed, by simpa using FileTree.mem_files_of_textAt ht⟩
    · cases h
  | record source r =>
    rw [register_including h]
    exact hs
  | leave =>
    cases h
    have hsub : c.including.dropLast.Sublist c.including := List.dropLast_sublist _
    exact ⟨hs.distinct.sublist hsub, fun x hx => hs.listed (hsub.subset hx)⟩

theorem stacked_step (h : Step t s s') (hs : Stacked t s.catalogue.including) :
    Stacked t s'.catalogue.including := by
  cases h with
  | perform hp => exact stacked_perform hp hs

theorem stacked_run (h : Run t s s') (hs : Stacked t s.catalogue.including) :
    Stacked t s'.catalogue.including := by
  induction h with
  | refl => exact hs
  | tail _ hstep ih => exact stacked_step hstep ih

end Catalogue
end DefsGlue
