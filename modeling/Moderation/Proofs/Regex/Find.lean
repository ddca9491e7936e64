import Moderation.Proofs.Regex.Search

namespace Moderation.Regex

namespace Code

structure Sound (code : Code) : Prop where
  wellFormed : WellFormed code.steps
  entry_lt : code.entry < code.steps.size

def MatchesAt (code : Code) (text : Array Char) (start stop : Nat) : Prop :=
  Leads code.steps text (code.entry, start) stop

def Misses (code : Code) (text : Array Char) (start stop : Nat) : Prop :=
  ∀ i, start ≤ i → i < stop → ∀ j, ¬code.MatchesAt text i j

theorem Misses.snoc {code : Code} {text : Array Char} {start stop : Nat}
    (h : code.Misses text start stop) (hstop : ∀ j, ¬code.MatchesAt text stop j) :
    code.Misses text start (stop + 1) := by
  intro i hi hlt j
  rcases Nat.lt_succ_iff_lt_or_eq.1 hlt with hlt | rfl
  · exact h i hi hlt j
  · exact hstop j

theorem Misses.cons {code : Code} {text : Array Char} {start stop : Nat}
    (h : code.Misses text (start + 1) stop) (hstart : ∀ j, ¬code.MatchesAt text start j) :
    code.Misses text start stop := by
  intro i hi hlt j
  rcases Nat.eq_or_lt_of_le hi with rfl | hi
  · exact hstart j
  · exact h i hi hlt j

theorem Misses.trans {code : Code} {text : Array Char} {start middle stop : Nat}
    (h : code.Misses text start middle) (h' : code.Misses text middle stop) : code.Misses text start stop := by
  intro i hi hlt j
  rcases Nat.lt_or_ge i middle with hmiddle | hmiddle
  · exact h i hi hmiddle j
  · exact h' i hmiddle hlt j

theorem misses_self (code : Code) (text : Array Char) (start : Nat) :
    code.Misses text start start := fun _ hi hlt => absurd hlt (Nat.not_lt_of_le hi)

end Code

open Code

variable {code : Code} {text : Array Char}

theorem fuel_suffices {t : Tried} :
    2 * (t.untried code.steps text).card + 1 < code.fuel text := by
  have := Tried.card_untried_le code.steps text t
  simp only [Code.fuel]
  omega

theorem matchesAt_of_explore (hcode : code.Sound) {start stop : Nat} {t t' : Tried}
    (hstart : start ≤ text.size)
    (h : explore code.steps text (code.fuel text) [(code.entry, start)] t = (some stop, t')) :
    code.MatchesAt text start stop := by
  obtain ⟨c, hc, hleads⟩ := explore_some
    (fun c hc => List.mem_singleton.1 hc ▸ ⟨hcode.entry_lt, hstart⟩) hcode.wellFormed h
  rwa [List.mem_singleton.1 hc] at hleads

theorem not_matchesAt_of_explore (hcode : code.Sound) {start : Nat} {t t' : Tried}
    (hstart : start ≤ text.size) (hfits : t.Fits code.steps text)
    (hexplored : Explored code.steps text t [])
    (h : explore code.steps text (code.fuel text) [(code.entry, start)] t = (none, t')) :
    (∀ j, ¬code.MatchesAt text start j) ∧ t'.Fits code.steps text ∧
      Explored code.steps text t' [] := by
  have hrange : InRange code.steps text (code.entry, start) := ⟨hcode.entry_lt, hstart⟩
  have hpending : Explored code.steps text t [(code.entry, start)] := fun c hc hhas s hs =>
    ⟨(hexplored c hc hhas s hs).1, fun q hq =>
      .inl (((hexplored c hc hhas s hs).2 q hq).resolve_right List.not_mem_nil)⟩
  obtain ⟨hfits', hexplored', -, htried⟩ := explore_none hcode.wellFormed hfits
    (fun c hc => List.mem_singleton.1 hc ▸ hrange) hpending fuel_suffices h
  refine ⟨fun j hj => ?_, hfits', hexplored'⟩
  have hnew := not_leads_of_explored hcode.wellFormed hexplored' hj hrange
  rw [htried _ List.mem_cons_self] at hnew
  cases hnew

/-- A memory that is left over from earlier starts holds nothing that leads to a match. -/
theorem findFrom_spec (hcode : code.Sound) (more : Nat) {start : Nat} {t : Tried}
    (hbound : start + more ≤ text.size) (hfits : t.Fits code.steps text)
    (hexplored : Explored code.steps text t []) :
    match findFrom code text more start t with
    | some span => start ≤ span.start ∧ span.start ≤ text.size ∧
        code.MatchesAt text span.start span.stop ∧ code.Misses text start span.start
    | none => code.Misses text start (start + more + 1) := by
  induction more generalizing start t with
  | zero =>
    unfold findFrom
    cases hexplore : explore code.steps text (code.fuel text) [(code.entry, start)] t with
    | mk found t' =>
      cases found with
      | some stop =>
        exact ⟨Nat.le_refl _, hbound, matchesAt_of_explore hcode hbound hexplore,
          misses_self code text start⟩
      | none =>
        exact (misses_self code text start).snoc
          (not_matchesAt_of_explore hcode hbound hfits hexplored hexplore).1
  | succ more ih =>
    have hstart : start ≤ text.size := by omega
    unfold findFrom
    cases hexplore : explore code.steps text (code.fuel text) [(code.entry, start)] t with
    | mk found t' =>
      cases found with
      | some stop =>
        exact ⟨Nat.le_refl _, hstart, matchesAt_of_explore hcode hstart hexplore,
          misses_self code text start⟩
      | none =>
        obtain ⟨hnone, hfits', hexplored'⟩ :=
          not_matchesAt_of_explore hcode hstart hfits hexplored hexplore
        have hrest := ih (by omega : start + 1 + more ≤ text.size) hfits' hexplored'
        dsimp only
        split at hrest
        · obtain ⟨hle, hbound', hmatch, hmiss⟩ := hrest
          exact ⟨by omega, hbound', hmatch, hmiss.cons hnone⟩
        · rw [show start + 1 + more + 1 = start + (more + 1) + 1 by omega] at hrest
          exact hrest.cons hnone

theorem findAt_some (hcode : code.Sound) {start : Nat} {span : Span}
    (h : code.findAt text start = some span) :
    start ≤ span.start ∧ span.start ≤ text.size ∧ code.MatchesAt text span.start span.stop ∧
      code.Misses text start span.start := by
  unfold Code.findAt at h
  split at h
  · rename_i hstart
    have hspec := findFrom_spec hcode (text.size - start) (by omega : start + (text.size - start) ≤ text.size)
      (Tried.fits_none code.steps text) (explored_none code.steps text)
    rwa [h] at hspec
  · cases h

theorem findAt_none (hcode : code.Sound) {start : Nat} (h : code.findAt text start = none) :
    code.Misses text start (text.size + 1) := by
  unfold Code.findAt at h
  split at h
  · rename_i hstart
    have hspec := findFrom_spec hcode (text.size - start) (by omega : start + (text.size - start) ≤ text.size)
      (Tried.fits_none code.steps text) (explored_none code.steps text)
    rw [h] at hspec
    rwa [show start + (text.size - start) + 1 = text.size + 1 by omega] at hspec
  · intro i hi hlt
    omega

inductive Scan (code : Code) (text : Array Char) : Nat → List Span → Prop
  | done {start : Nat} : code.Misses text start (text.size + 1) → Scan code text start []
  | found {start : Nat} {span : Span} {rest : List Span} : start ≤ span.start →
    code.Misses text start span.start →
    (∀ j, code.MatchesAt text span.start j ↔ j = span.stop) → span.start < span.stop →
    span.stop ≤ text.size → Scan code text span.stop rest → Scan code text start (span :: rest)

theorem Scan.extend {start middle : Nat} {spans : List Span} (h : Scan code text middle spans)
    (hle : start ≤ middle) (hmiss : code.Misses text start middle) : Scan code text start spans := by
  cases h with
  | done hrest => exact .done (hmiss.trans hrest)
  | found hle' hmiss' hmatch hlt hstop hrest =>
    exact .found (Nat.le_trans hle hle') (hmiss.trans hmiss') hmatch hlt hstop hrest

theorem Scan.length_le {start : Nat} {spans : List Span} (h : Scan code text start spans)
    (hstart : start ≤ text.size) : start + spans.length ≤ text.size := by
  induction h with
  | done => exact hstart
  | found hle _ _ hlt hstop _ ih =>
    have := ih hstop
    rw [List.length_cons]
    omega

theorem findAt_of_misses (hcode : code.Sound) {start : Nat}
    (h : code.Misses text start (text.size + 1)) : code.findAt text start = none := by
  cases hfind : code.findAt text start with
  | none => rfl
  | some span =>
    obtain ⟨hle, hbound, hmatch, -⟩ := findAt_some hcode hfind
    exact absurd hmatch (h _ hle (Nat.lt_succ_of_le hbound) _)

theorem findAt_of_found (hcode : code.Sound) {start : Nat} {span : Span} (hle : start ≤ span.start)
    (hmiss : code.Misses text start span.start)
    (hmatch : ∀ j, code.MatchesAt text span.start j ↔ j = span.stop)
    (hlt : span.start ≤ text.size) : code.findAt text start = some span := by
  cases hfind : code.findAt text start with
  | none =>
    exact absurd ((hmatch _).2 rfl) (findAt_none hcode hfind _ hle (Nat.lt_succ_of_le hlt) _)
  | some found =>
    obtain ⟨hle', -, hmatch', hmiss'⟩ := findAt_some hcode hfind
    have hstart : found.start = span.start := by
      rcases Nat.lt_trichotomy found.start span.start with h | h | h
      · exact absurd hmatch' (hmiss _ hle' h _)
      · exact h
      · exact absurd ((hmatch _).2 rfl) (hmiss' _ hle h _)
    rw [hstart] at hmatch'
    have hstop : found.stop = span.stop := (hmatch _).1 hmatch'
    cases found
    cases span
    simp_all

theorem findAll_of_scan (hcode : code.Sound) {spans : List Span} (h : Scan code text 0 spans) :
    code.findAll text = spans := by
  have hfrom : ∀ {start : Nat} {spans : List Span}, Scan code text start spans →
      ∀ fuel last, spans.length < fuel → code.findAllFrom text fuel start last = spans := by
    intro start spans hscan
    induction hscan with
    | done hmiss =>
      intro fuel last hfuel
      match fuel with
      | fuel + 1 => simp only [Code.findAllFrom, Code.findAfter, findAt_of_misses hcode hmiss]
    | @found start span rest hle hmiss hmatch hlt hstop _ ih =>
      intro fuel last hfuel
      match fuel with
      | fuel + 1 =>
        have hne : (span.start == span.stop) = false := beq_false_of_ne (Nat.ne_of_lt hlt)
        simp only [Code.findAllFrom, Code.findAfter,
          findAt_of_found hcode hle hmiss hmatch (by omega), hne, Bool.false_and, Bool.false_eq_true,
          if_false]
        rw [ih fuel _ (by simpa using hfuel)]
  have hlength := h.length_le (Nat.zero_le _)
  exact hfrom h _ _ (by omega)

theorem matchesAt_of_findAfter (hcode : code.Sound) {start : Nat} {last : Option Nat} {span : Span}
    (h : code.findAfter text start last = some span) :
    code.MatchesAt text span.start span.stop := by
  unfold Code.findAfter at h
  split at h
  · rename_i found hfound
    split at h
    · exact (findAt_some hcode h).2.2.1
    · obtain rfl := Option.some.inj h
      exact (findAt_some hcode hfound).2.2.1
  · cases h

theorem matchesAt_of_mem_findAll (hcode : code.Sound) {span : Span} (h : span ∈ code.findAll text) :
    code.MatchesAt text span.start span.stop := by
  have hfrom : ∀ fuel start last, span ∈ code.findAllFrom text fuel start last →
      code.MatchesAt text span.start span.stop := by
    intro fuel
    induction fuel with
    | zero => exact fun _ _ h => absurd h List.not_mem_nil
    | succ fuel ih =>
      intro start last h
      rw [Code.findAllFrom] at h
      split at h
      · rename_i found hfound
        rcases List.mem_cons.1 h with rfl | h
        · exact matchesAt_of_findAfter hcode hfound
        · exact ih _ _ h
      · cases h
  exact hfrom _ _ _ h

end Moderation.Regex
