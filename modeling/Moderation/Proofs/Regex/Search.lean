import Moderation.Proofs.Regex.Tried

/-!
What a search finds. The pairs of steps and positions form a graph; a search explores it and keeps the
invariant that the followers of every tried pair are tried or waiting. So a search that finds nothing has
tried everything that can be reached.
-/

namespace Moderation.Regex

variable {code : Program} {text : Array Char}

inductive Leads (code : Program) (text : Array Char) : Nat × Nat → Nat → Prop
  | accept {step pos : Nat} : code[step]? = some .accept → Leads code text (step, pos) pos
  | follow {step pos stop : Nat} {s : Step} {q : Nat × Nat} : code[step]? = some s →
    q ∈ s.follow text pos → Leads code text q stop → Leads code text (step, pos) stop

def Step.targets : Step → List Nat
  | .take _ next => [next]
  | .fork first second => [first, second]
  | .test _ next => [next]
  | .accept => []

def WellFormed (code : Program) : Prop :=
  ∀ (k : Nat) (s : Step), code[k]? = some s → ∀ n ∈ s.targets, n < code.size

theorem getElem?_of_lt {k : Nat} (h : k < code.size) : ∃ s, code[k]? = some s :=
  ⟨_, Array.getElem?_eq_getElem h⟩

theorem follow_inRange (hcode : WellFormed code) {k pos : Nat} {s : Step} (hs : code[k]? = some s)
    (hpos : pos ≤ text.size) {q : Nat × Nat} (hq : q ∈ s.follow text pos) : InRange code text q := by
  have htargets := hcode k s hs
  cases s with
  | take cls next =>
    simp only [Step.follow] at hq
    split at hq
    · rename_i htake
      obtain rfl := List.mem_singleton.1 hq
      obtain ⟨c, hc, -⟩ := (Option.any_eq_true _ _).1 htake
      exact ⟨htargets next (by simp [Step.targets]), (Array.getElem?_eq_some_iff.1 hc).1⟩
    · cases hq
  | fork first second =>
    rcases List.mem_pair.1 hq with rfl | rfl
    · exact ⟨htargets first (by simp [Step.targets]), hpos⟩
    · exact ⟨htargets second (by simp [Step.targets]), hpos⟩
  | test l next =>
    simp only [Step.follow] at hq
    split at hq
    · obtain rfl := List.mem_singleton.1 hq
      exact ⟨htargets next (by simp [Step.targets]), hpos⟩
    · cases hq
  | accept => cases hq

theorem length_follow_le (text : Array Char) (s : Step) (pos : Nat) : (s.follow text pos).length ≤ 2 := by
  cases s with
  | take cls next =>
    simp only [Step.follow]
    split <;> simp
  | fork first second => simp [Step.follow]
  | test l next =>
    simp only [Step.follow]
    split <;> simp
  | accept => simp [Step.follow]

/-- What has been tried does not accept, and its followers have been tried or are waiting. -/
def Explored (code : Program) (text : Array Char) (t : Tried) (pending : List (Nat × Nat)) : Prop :=
  ∀ c, InRange code text c → t.has c.1 c.2 = true → ∀ s, code[c.1]? = some s →
    s ≠ .accept ∧ ∀ q ∈ s.follow text c.2, t.has q.1 q.2 = true ∨ q ∈ pending

theorem explored_none (code : Program) (text : Array Char) :
    Explored code text (Tried.none code text) [] := by
  intro c _ hc
  rw [Tried.has_none] at hc
  cases hc

theorem not_leads_of_explored (hcode : WellFormed code) {t : Tried} (ht : Explored code text t [])
    {c : Nat × Nat} {stop : Nat} (h : Leads code text c stop) (hrange : InRange code text c) :
    t.has c.1 c.2 = false := by
  by_contra hhas
  rw [Bool.not_eq_false] at hhas
  induction h with
  | accept hs => exact (ht _ hrange hhas _ hs).1 rfl
  | follow hs hq _ ih =>
    refine ih (follow_inRange hcode hs hrange.2 hq) ?_
    rcases (ht _ hrange hhas _ hs).2 _ hq with h | h
    · exact h
    · cases h

theorem Explored.tail {t : Tried} {c : Nat × Nat} {rest : List (Nat × Nat)}
    (h : Explored code text t (c :: rest)) (hc : t.has c.1 c.2 = true) :
    Explored code text t rest := by
  intro d hd hhas s hs
  refine ⟨(h d hd hhas s hs).1, fun q hq => ?_⟩
  rcases (h d hd hhas s hs).2 q hq with htried | hpending
  · exact .inl htried
  · rcases List.mem_cons.1 hpending with rfl | hrest
    · exact .inl hc
    · exact .inr hrest

theorem Explored.mark (hcode : WellFormed code) {t : Tried} (hfits : t.Fits code text)
    {c : Nat × Nat} {rest : List (Nat × Nat)} (h : Explored code text t (c :: rest))
    (hc : InRange code text c) {s : Step} (hs : code[c.1]? = some s) (hne : s ≠ .accept) :
    Explored code text (t.mark c.1 c.2) (s.follow text c.2 ++ rest) := by
  intro d hd hhas s' hs'
  have hmark := fun {q : Nat × Nat} (hq : InRange code text q) => Tried.has_mark hfits hc hq
  rcases (hmark hd).1 hhas with hold | rfl
  · refine ⟨(h d hd hold s' hs').1, fun q hq => ?_⟩
    have hqrange := follow_inRange hcode hs' hd.2 hq
    rcases (h d hd hold s' hs').2 q hq with htried | hpending
    · exact .inl ((hmark hqrange).2 (.inl htried))
    · rcases List.mem_cons.1 hpending with rfl | hrest
      · exact .inl ((hmark hqrange).2 (.inr rfl))
      · exact .inr (List.mem_append_right _ hrest)
  · obtain rfl : s = s' := Option.some.inj (hs.symm.trans hs')
    exact ⟨hne, fun q hq => .inr (List.mem_append_left _ hq)⟩

theorem explore_tried {t : Tried} {c : Nat × Nat} (h : t.has c.1 c.2 = true) (fuel : Nat)
    (rest : List (Nat × Nat)) :
    explore code text (fuel + 1) (c :: rest) t = explore code text fuel rest t := by
  simp only [explore, h, if_true]

theorem explore_accept {t : Tried} {c : Nat × Nat} (h : t.has c.1 c.2 = false)
    (hs : code[c.1]? = some .accept) (fuel : Nat) (rest : List (Nat × Nat)) :
    explore code text (fuel + 1) (c :: rest) t = (some c.2, t.mark c.1 c.2) := by
  simp only [explore, h, Bool.false_eq_true, if_false, hs]

theorem explore_new {t : Tried} {c : Nat × Nat} (h : t.has c.1 c.2 = false) {s : Step}
    (hs : code[c.1]? = some s) (hne : s ≠ .accept) (fuel : Nat) (rest : List (Nat × Nat)) :
    explore code text (fuel + 1) (c :: rest) t =
      explore code text fuel (s.follow text c.2 ++ rest) (t.mark c.1 c.2) := by
  simp only [explore, h, Bool.false_eq_true, if_false, hs]

theorem explore_some {fuel : Nat} {pending : List (Nat × Nat)} {t t' : Tried} {stop : Nat}
    (hrange : ∀ c ∈ pending, InRange code text c) (hcode : WellFormed code)
    (h : explore code text fuel pending t = (some stop, t')) :
    ∃ c ∈ pending, Leads code text c stop := by
  induction fuel generalizing pending t with
  | zero => cases h
  | succ fuel ih =>
    match pending with
    | [] => cases h
    | c :: rest =>
      have hc := hrange c List.mem_cons_self
      have hrest : ∀ c ∈ rest, InRange code text c := fun d hd =>
        hrange d (List.mem_cons_of_mem _ hd)
      cases hhas : t.has c.1 c.2 with
      | true =>
        rw [explore_tried hhas] at h
        obtain ⟨d, hd, hleads⟩ := ih hrest h
        exact ⟨d, List.mem_cons_of_mem _ hd, hleads⟩
      | false =>
        obtain ⟨s, hs⟩ := getElem?_of_lt hc.1
        by_cases hacc : s = .accept
        · subst hacc
          rw [explore_accept hhas hs] at h
          obtain rfl := Option.some.inj (congrArg Prod.fst h)
          exact ⟨c, List.mem_cons_self, .accept hs⟩
        · rw [explore_new hhas hs hacc] at h
          obtain ⟨d, hd, hleads⟩ := ih (fun d hd => (List.mem_append.1 hd).elim
            (follow_inRange hcode hs hc.2) (hrest d)) h
          rcases List.mem_append.1 hd with hfollow | hd
          · exact ⟨c, List.mem_cons_self, .follow hs hfollow hleads⟩
          · exact ⟨d, List.mem_cons_of_mem _ hd, hleads⟩

theorem explore_none (hcode : WellFormed code) {fuel : Nat} {pending : List (Nat × Nat)}
    {t t' : Tried} (hfits : t.Fits code text) (hrange : ∀ c ∈ pending, InRange code text c)
    (hexplored : Explored code text t pending)
    (hfuel : 2 * (t.untried code text).card + pending.length < fuel)
    (h : explore code text fuel pending t = (none, t')) :
    t'.Fits code text ∧ Explored code text t' [] ∧
      (∀ c, InRange code text c → t.has c.1 c.2 = true → t'.has c.1 c.2 = true) ∧
      ∀ c ∈ pending, t'.has c.1 c.2 = true := by
  -- Every round either drops a waiting pair or tries a new one, which puts at most two on the list.
  induction fuel generalizing pending t with
  | zero => omega
  | succ fuel ih =>
    match pending with
    | [] =>
      obtain rfl := congrArg Prod.snd h
      exact ⟨hfits, hexplored, fun _ _ h => h, fun c hc => by cases hc⟩
    | c :: rest =>
      have hc := hrange c List.mem_cons_self
      have hrest : ∀ c ∈ rest, InRange code text c := fun d hd =>
        hrange d (List.mem_cons_of_mem _ hd)
      rw [List.length_cons] at hfuel
      cases hhas : t.has c.1 c.2 with
      | true =>
        rw [explore_tried hhas] at h
        obtain ⟨hfits', hexplored', hmono, hpending⟩ :=
          ih hfits hrest (hexplored.tail hhas) (by omega) h
        refine ⟨hfits', hexplored', hmono, fun d hd => ?_⟩
        rcases List.mem_cons.1 hd with rfl | hd
        · exact hmono d hc hhas
        · exact hpending d hd
      | false =>
        obtain ⟨s, hs⟩ := getElem?_of_lt hc.1
        by_cases hacc : s = .accept
        · subst hacc
          rw [explore_accept hhas hs] at h
          cases h
        · rw [explore_new hhas hs hacc] at h
          have hcard := Tried.card_untried_mark_lt hfits hc hhas
          have hlength := length_follow_le text s c.2
          have hmark := fun {d : Nat × Nat} (hd : InRange code text d) => Tried.has_mark hfits hc hd
          obtain ⟨hfits', hexplored', hmono, hpending⟩ := ih (hfits.mark c.1 c.2)
            (fun d hd => (List.mem_append.1 hd).elim (follow_inRange hcode hs hc.2) (hrest d))
            (hexplored.mark hcode hfits hc hs hacc) (by rw [List.length_append]; omega) h
          refine ⟨hfits', hexplored', fun d hd hold => hmono d hd ((hmark hd).2 (.inl hold)),
            fun d hd => ?_⟩
          rcases List.mem_cons.1 hd with rfl | hd
          · exact hmono d hc ((hmark hc).2 (.inr rfl))
          · exact hpending d (List.mem_append_right _ hd)

end Moderation.Regex
