import Moderation.Action.Vocabulary
import Moderation.Proofs.Points.Sorting
import Moderation.Proofs.Service.Configuration

/-!
The values of a configuration are checked twice: in the configuration, where each value of a threshold is held
against all values before it, and when the table is made, where it is held against its neighbour in the sorted row.
Both accept the same values, though they may name different faults in others; so what passes the first check fails
for an action that cannot be built, or for want of something to run the leaking on, or not at all.
-/

namespace Moderation

open Points

section Building

variable {r : Registry}

/-- The first line of a threshold, those for the way up before those for the way down, that makes no action. -/
def Registry.unbuilt? (r : Registry) (t : ThresholdSettings) : Option ConfigError :=
  (t.ascending ++ t.descending).findSome? fun line =>
    (failure? (r.constructLine line)).map (.thresholdAction t.name)

theorem failure?_buildActions (r : Registry) (name : String) (lines : List String) :
    failure? (buildActions r name lines) =
      lines.findSome? fun line => (failure? (r.constructLine line)).map (.thresholdAction name) := by
  rw [buildActions, failure?_mapM]
  refine congrArg (lines.findSome? ·) (funext fun line => ?_)
  cases r.constructLine line <;> rfl

theorem failure?_buildThreshold (r : Registry) (t : ThresholdSettings) :
    failure? (buildThreshold r t) = r.unbuilt? t := by
  rw [Registry.unbuilt?, List.findSome?_append, ← failure?_buildActions, ← failure?_buildActions, buildThreshold]
  cases buildActions r t.name t.ascending with
  | error e => rfl
  | ok ascending => cases buildActions r t.name t.descending <;> rfl

theorem points_of_buildThreshold {t : ThresholdSettings} {b : Threshold Float Action}
    (h : buildThreshold r t = .ok b) : b.points = t.points := by
  obtain ⟨ascending, -, h⟩ := bind_ok h
  obtain ⟨descending, -, h⟩ := bind_ok h
  obtain rfl := Except.ok.inj h
  rfl

end Building

section Values

def Tabular (values : List Float) : Prop :=
  (∀ x ∈ values, isPositive x = true) ∧ values.Pairwise fun x y => (x == y) = false

instance (values : List Float) : Decidable (Tabular values) :=
  inferInstanceAs (Decidable ((∀ x ∈ values, isPositive x = true) ∧ values.Pairwise fun x y => (x == y) = false))

theorem exists_table_iff {β : Type} {ts : List (Threshold Float β)} :
    (∃ t, Table.ofList ts = .ok t) ↔ Tabular (ts.map (·.points)) := by
  simp only [Table.exists_ofList_iff, Tabular, List.forall_mem_map, List.pairwise_map, isSame_eq_beq]

theorem checkThresholds_eq_ok_iff {seen : List Float} {ts : List ThresholdSettings} :
    Config.checkThresholds seen ts = .ok () ↔
      (∀ t ∈ ts, t.name.trimBlanks.isEmpty = false) ∧ Tabular (ts.map (·.points)) ∧
        ∀ x ∈ seen, ∀ y ∈ ts.map (·.points), (x == y) = false := by
  induction ts generalizing seen with
  | nil => simp [Config.checkThresholds, Tabular]
  | cons t rest ih =>
    rw [Config.checkThresholds]
    cases hname : t.name.trimBlanks.isEmpty with
    | true => exact iff_of_false (by simp) fun h => Bool.noConfusion (hname.symm.trans (h.1 t List.mem_cons_self))
    | false =>
      cases hpos : isPositive t.points with
      | false =>
        exact iff_of_false (by simp) fun h => Bool.noConfusion (hpos.symm.trans (h.2.1.1 _ List.mem_cons_self))
      | true =>
        cases hseen : seen.any (· == t.points) with
        | true =>
          obtain ⟨x, hx, hsame⟩ := List.any_eq_true.1 hseen
          exact iff_of_false (by simp) fun h => Bool.noConfusion (hsame.symm.trans (h.2.2 x hx _ List.mem_cons_self))
        | false =>
          have hfresh : ∀ x ∈ seen, (x == t.points) = false := by simpa using hseen
          simp only [Bool.false_eq_true, if_false, Bool.not_true, ih, Tabular, List.map_cons, List.pairwise_cons,
            List.forall_mem_cons, hname, hpos, true_and, forall₂_and]
          constructor
          · rintro ⟨hnames, ⟨hvalues, hdistinct⟩, hfirst, hrest⟩
            exact ⟨hnames, ⟨hvalues, hfirst, hdistinct⟩, hfresh, hrest⟩
          · rintro ⟨hnames, ⟨hvalues, hfirst, hdistinct⟩, -, hrest⟩
            exact ⟨hnames, ⟨hvalues, hdistinct⟩, hfirst, hrest⟩

theorem check_eq_ok_iff {c : Config} : c.check = .ok () ↔ Config.checkLeak c.points.leak = .ok () ∧
    Config.checkCommands c.commands.names = .ok () ∧ Config.checkThresholds [] c.points.thresholds = .ok () := by
  rw [Config.check]
  cases Config.checkLeak c.points.leak with
  | error e => simp [bind, Except.bind]
  | ok _ =>
    cases Config.checkCommands c.commands.names with
    | error e => simp [bind, Except.bind]
    | ok _ => simp [bind, Except.bind]

theorem tabular_of_check {c : Config} (h : c.check = .ok ()) : Tabular (c.points.thresholds.map (·.points)) :=
  (checkThresholds_eq_ok_iff.1 (check_eq_ok_iff.1 h).2.2).2.1

end Values

section Refusals

variable {c : Config}

theorem failure?_buildTable (h : c.check = .ok ()) (r : Registry) :
    failure? (buildTable r c.points.thresholds) = c.points.thresholds.findSome? r.unbuilt? := by
  have hbuild := failure?_mapM (buildThreshold r) c.points.thresholds
  simp only [failure?_buildThreshold] at hbuild
  rw [← hbuild, buildTable]
  cases hbuilt : c.points.thresholds.mapM (buildThreshold r) with
  | error e => rfl
  | ok built =>
    have hvalues := map_eq_of_mapM points_of_buildThreshold hbuilt
    obtain ⟨table, htable⟩ := exists_table_iff.2 (hvalues ▸ tabular_of_check h)
    simp only [bind, Except.bind, htable]
    rfl

theorem failure?_applyConfig (h : c.check = .ok ()) (s : Service) :
    failure? (s.applyConfig c) =
      if c.points.enabled then
        (failure? (buildTable s.registry c.points.thresholds)).or
          (if s.hasRuntime then none else some .noRuntime)
      else none := by
  unfold Service.applyConfig Service.changed Service.Change.configure
  simp only [Service.Change.outcome_bind, Service.Change.outcome_ofExcept, h, Except.mapError]
  cases henabled : c.points.enabled with
  | false => rfl
  | true =>
    simp only [if_true, Service.Change.outcome_bind, Service.Change.outcome_get, Service.Change.outcome_ofExcept]
    cases buildTable s.registry c.points.thresholds with
    | error e => rfl
    | ok table =>
      simp only [Service.Change.outcome_enableScoring s _ table (Config.interval_ne_zero h)]
      cases hruntime : s.hasRuntime <;> rfl

end Refusals

/-- A configuration that passes its check is refused for an action line that makes no action or for want of something
to run the leaking on, and for nothing else; what leaks is never less than nothing. And values that make no table do
not pass the check: if all thresholds have names, both checks accept the same values. -/
theorem checks_agree (c : Config) :
    (c.check = .ok () →
      (∀ r, failure? (buildTable r c.points.thresholds) = c.points.thresholds.findSome? r.unbuilt?) ∧
      c.points.leak.rate.interval ≠ 0 ∧ (∀ elapsed, IsScore (c.points.leak.rate.amount elapsed)) ∧
      ∀ s : Service, failure? (s.applyConfig c) =
        if c.points.enabled then
          (c.points.thresholds.findSome? s.registry.unbuilt?).or (if s.hasRuntime then none else some .noRuntime)
        else none) ∧
    ∀ built : List (Threshold Float Action), built.map (·.points) = c.points.thresholds.map (·.points) →
      (∀ fault, Table.ofList built = .error fault → ∃ fault, c.check = .error fault) ∧
      (Config.checkThresholds [] c.points.thresholds = .ok () ↔
        (∀ t ∈ c.points.thresholds, t.name.trimBlanks.isEmpty = false) ∧ ∃ table, Table.ofList built = .ok table) := by
  refine ⟨fun h => ⟨failure?_buildTable h, Config.interval_ne_zero h, fun elapsed => ?_, fun s => ?_⟩,
    fun built hvalues => ⟨fun fault hfault => ?_, ?_⟩⟩
  · exact isScore_of_atMost (c.points.leak.rate.zero_atMost_amount elapsed)
  · rw [failure?_applyConfig h, failure?_buildTable h]
  · cases hcheck : c.check with
    | error fault' => exact ⟨fault', rfl⟩
    | ok _ =>
      obtain ⟨table, htable⟩ := exists_table_iff.2 (hvalues ▸ tabular_of_check hcheck)
      rw [htable] at hfault
      cases hfault
  · rw [checkThresholds_eq_ok_iff, exists_table_iff, hvalues]
    simp

def silencing : Config := { points := { enabled := true, thresholds := [
  ⟨"kick", 20, ["kick Too much."], ["warn Welcome back."]⟩, ⟨"mute", 5, ["warn Calm down", "silence"], []⟩] } }

def repeated : List (Threshold Float Action) := [⟨"a", 5, [.deny], []⟩, ⟨"b", 10, [], []⟩, ⟨"c", 5, [.log], []⟩]

def repeating : Config := { points := { thresholds := [⟨"a", 5, ["deny"], []⟩, ⟨"b", 10, [], []⟩,
  ⟨"c", 5, ["log"], []⟩] } }

theorem checks_agree_silencing :
    silencing.check = .ok () ∧
      (∀ s : Service, s.registry = .standard → (failure? (s.applyConfig silencing)).map ConfigError.message =
        some "threshold 'mute': unknown action 'silence'") ∧
      IsScore (silencing.points.leak.rate.amount 45000) ∧
      (∃ fault, Table.ofList repeated = .error fault) ∧ ∃ fault, repeating.check = .error fault := by
  have hcheck : silencing.check = .ok () := ok_of_toOption (by decide +kernel)
  obtain ⟨-, -, hamount, happly⟩ := (checks_agree silencing).1 hcheck
  refine ⟨hcheck, fun s hs => ?_, hamount 45000, ?_⟩
  · rw [happly s, hs]
    cases s.hasRuntime <;> decide +kernel
  · cases hrepeated : Table.ofList repeated with
    | error fault => exact ⟨⟨fault, rfl⟩, ((checks_agree repeating).2 repeated rfl).1 fault hrepeated⟩
    | ok table => exact absurd (exists_table_iff.1 ⟨table, hrepeated⟩) (by decide +kernel)

end Moderation
