import Moderation.Service.Filter
import Moderation.Proofs.Service.Validation
import Moderation.Proofs.Text.Fields

namespace Moderation

open Text

structure WrittenCommand where
  before : List Char
  slashes : Nat
  between : List Char
  word : Word
  after : List Char
  isBlank_before : ∀ c ∈ before, isBlank c = true
  isBlank_between : ∀ c ∈ between, isBlank c = true
  isBlank_after : ∀ c ∈ after.head?, isBlank c = true

def WrittenCommand.text (w : WrittenCommand) : List Char :=
  w.before ++ List.replicate w.slashes '/' ++ w.between ++ w.word.chars ++ w.after

def Calls (name text : String) : Prop :=
  ∃ w : WrittenCommand, w.text = text.toList ∧
    (String.ofList w.word.chars).asciiLower = name.dropSlashes.asciiLower

def CallsOneOf (names : List String) (text : String) : Prop := ∃ name ∈ names, Calls name text

section Name

theorem trimStart_blanks {blanks s : List Char} (hblanks : ∀ c ∈ blanks, isBlank c = true)
    (hs : ∀ c ∈ s.head?, isBlank c = false) : trimStart (blanks ++ s) = s := by
  rw [trimStart, List.dropWhile_append_of_pos hblanks, dropWhile_isBlank_of_head hs]

theorem dropWhile_slash {s : List Char} (hs : s.head? ≠ some '/') : s.dropWhile (· == '/') = s := by
  cases s with
  | nil => rfl
  | cons c s => rw [List.dropWhile_cons_of_neg (by simpa using hs)]

theorem head?_dropWhile_slash (s : List Char) : (s.dropWhile (· == '/')).head? ≠ some '/' := by
  intro h
  have hstop := List.head?_dropWhile_not (· == '/') s
  rw [h] at hstop
  cases hstop

theorem commandName_text {w : WrittenCommand} (hne : w.word.chars ≠ []) (hslash : w.word.chars.head? ≠ some '/') :
    commandName w.text = w.word.chars := by
  have hname : firstWord (w.word.chars ++ w.after) = w.word.chars :=
    firstWord_append w.word.noBlank w.isBlank_after
  have hhead : (w.word.chars ++ w.after).head? = w.word.chars.head? := List.head?_append_of_ne_nil _ hne
  have hink : ∀ c ∈ (w.word.chars ++ w.after).head?, isBlank c = false := by
    intro c hc
    rw [hhead] at hc
    exact w.word.noBlank c (List.mem_of_mem_head? hc)
  have hstop : (w.between ++ (w.word.chars ++ w.after)).head? ≠ some '/' := by
    cases hbetween : w.between with
    | nil => rwa [List.nil_append, hhead]
    | cons c s =>
      intro h
      obtain rfl := Option.some.inj h
      exact absurd (w.isBlank_between _ (hbetween ▸ List.mem_cons_self)) (by decide)
  simp only [commandName, WrittenCommand.text, List.append_assoc]
  cases w.slashes with
  | zero =>
    -- Without slashes the blanks on both sides of them are one run.
    have hblanks : ∀ c ∈ w.before ++ w.between, isBlank c = true := fun c hc =>
      (List.mem_append.1 hc).elim (w.isBlank_before c) (w.isBlank_between c)
    have hstart := trimStart_blanks hblanks hink
    have hword : trimStart (w.word.chars ++ w.after) = w.word.chars ++ w.after := dropWhile_isBlank_of_head hink
    rw [List.append_assoc] at hstart
    rw [List.replicate_zero, List.nil_append, hstart, dropWhile_slash (hhead ▸ hslash), hword, hname]
  | succ k =>
    have hstart := trimStart_blanks (s := List.replicate (k + 1) '/' ++ (w.between ++ (w.word.chars ++ w.after)))
      w.isBlank_before (fun c hc => by obtain rfl := Option.some.inj hc; decide)
    rw [hstart, List.dropWhile_append_of_pos (fun c hc => by rw [List.eq_of_mem_replicate hc]; rfl),
      dropWhile_slash hstop, trimStart_blanks w.isBlank_between hink, hname]

theorem exists_written (text : List Char) :
    ∃ w : WrittenCommand, w.text = text ∧ w.word.chars = commandName text := by
  let slashed := trimStart text
  let named := slashed.dropWhile (· == '/')
  have hslashes : List.replicate (slashed.takeWhile (· == '/')).length '/' = slashed.takeWhile (· == '/') :=
    (List.eq_replicate_of_mem fun c hc => beq_iff_eq.1 (List.mem_takeWhile_imp (p := (· == '/')) hc)).symm
  refine ⟨⟨text.takeWhile isBlank, (slashed.takeWhile (· == '/')).length, named.takeWhile isBlank,
    ⟨commandName text, fun c hc => ?_⟩, (trimStart named).dropWhile (fun c => !isBlank c),
    fun c => List.mem_takeWhile_imp, fun c => List.mem_takeWhile_imp, fun c hc => ?_⟩, ?_, rfl⟩
  · simpa using List.mem_takeWhile_imp hc
  · have hstop := List.head?_dropWhile_not (fun c => !isBlank c) (trimStart named)
    rw [hc] at hstop
    simpa using hstop
  · have hnamed : named.takeWhile isBlank ++ trimStart named = named := List.takeWhile_append_dropWhile
    have hslashed : slashed.takeWhile (· == '/') ++ named = slashed := List.takeWhile_append_dropWhile
    have hword : commandName text ++ (trimStart named).dropWhile (fun c => !isBlank c) = trimStart named :=
      firstWord_append_dropWhile _
    simp only [WrittenCommand.text, hslashes, List.append_assoc, hword, hnamed, hslashed]
    exact List.takeWhile_append_dropWhile

end Name

section Accepted

theorem eq_slash_of_toLower {c : Char} (h : c.toLower = '/') : c = '/' := by
  have hupper : ¬c.isUpper = true := by
    intro hupper
    have halpha : c.isAlpha = true := by rw [Char.isAlpha, hupper, Bool.true_or]
    rw [← Char.isAlpha_toLower_eq_isAlpha, h] at halpha
    cases halpha
  rwa [Char.toLower_eq_of_not_isUpper hupper] at h

structure IsCommandName (name : String) : Prop where
  ne_nil : name.dropSlashes.toList ≠ []
  noBlank : ∀ c ∈ name.dropSlashes.toList, isBlank c = false

theorem isCommandName_iff {name : String} :
    IsCommandName name ↔ (name.dropSlashes.isEmpty || name.dropSlashes.hasBlank) = false := by
  rw [Bool.or_eq_false_iff]
  constructor
  · intro h
    exact ⟨by simpa using h.ne_nil, by simpa [String.hasBlank] using h.noBlank⟩
  · rintro ⟨hempty, hblank⟩
    exact ⟨by simpa using hempty, by simpa [String.hasBlank] using hblank⟩

theorem checkCommands_eq_ok_iff {names : List String} :
    Config.checkCommands names = .ok () ↔ ∀ name ∈ names, IsCommandName name := by
  induction names with
  | nil => simp [Config.checkCommands]
  | cons name rest ih =>
    rw [Config.checkCommands, List.forall_mem_cons, ← ih, isCommandName_iff]
    cases name.dropSlashes.isEmpty || name.dropSlashes.hasBlank <;> simp

theorem listed_singleton {name word : String} :
    CommandLists.listed [name] word = true ↔ name.dropSlashes.asciiLower = word.asciiLower := by
  simp [CommandLists.listed]

theorem calls_iff {name text : String} (h : IsCommandName name) :
    Calls name text ↔ CommandLists.listed [name] (String.ofList (commandName text.toList)) = true := by
  rw [listed_singleton]
  constructor
  · rintro ⟨w, htext, hname⟩
    have hsame : w.word.chars.map Char.toLower = name.dropSlashes.toList.map Char.toLower := by
      simpa [String.asciiLower] using String.ofList_injective hname
    have hne : w.word.chars ≠ [] := by
      intro hnil
      rw [hnil, List.map_nil, eq_comm, List.map_eq_nil_iff] at hsame
      exact h.ne_nil hsame
    have hslash : w.word.chars.head? ≠ some '/' := by
      intro hhead
      have hlower : name.dropSlashes.toList.head?.map Char.toLower = some '/' := by
        rw [← List.head?_map, ← hsame, List.head?_map, hhead]
        rfl
      obtain ⟨c, hc, hcs⟩ := Option.map_eq_some_iff.1 hlower
      rw [eq_slash_of_toLower hcs, String.dropSlashes, String.toList_ofList] at hc
      exact head?_dropWhile_slash _ hc
    rw [← htext, commandName_text hne hslash]
    exact hname.symm
  · intro hname
    obtain ⟨w, htext, hword⟩ := exists_written text.toList
    exact ⟨w, htext, by rw [hword, hname]⟩

theorem exists_calls {name : String} (h : IsCommandName name) : ∃ text, Calls name text := by
  refine ⟨String.ofList ('/' :: name.dropSlashes.toList), ⟨[], 1, [], ⟨name.dropSlashes.toList, h.noBlank⟩, [],
    by simp, by simp, by simp⟩, ?_, ?_⟩
  · simp [WrittenCommand.text]
  · rw [String.ofList_toList]

theorem callsOneOf_iff {names : List String} {text : String} (h : ∀ name ∈ names, IsCommandName name) :
    CallsOneOf names text ↔ CommandLists.listed names (String.ofList (commandName text.toList)) = true := by
  have hlisted : ∀ word, CommandLists.listed names word = true ↔
      ∃ name ∈ names, CommandLists.listed [name] word = true := by
    simp [CommandLists.listed]
  rw [hlisted, CallsOneOf]
  exact exists_congr fun name => and_congr_right fun hname => calls_iff (h name hname)

end Accepted

/-- Every name that a configuration may list is the name of some command text, and a text is recognized under it
exactly if the text is a command of that name; two names under which one text is recognized are the same but for case
and slashes. A command goes the way of chat if it is listed there, else to the chain for commands if the one list
does not exempt it and the other, unless it is empty, has it; else it is not filtered. -/
theorem listed_names_are_called {c : Config} (h : c.check = .ok ()) :
    (∀ name ∈ c.commands.names,
      (∃ text, Calls name text) ∧
      (∀ text, CommandLists.listed [name] (String.ofList (commandName text.toList)) = true ↔ Calls name text) ∧
      ∀ other ∈ c.commands.names, ∀ text, Calls name text → Calls other text →
        name.dropSlashes.asciiLower = other.dropSlashes.asciiLower) ∧
    ∀ text,
      (route c .command text = some (.chat c.commands.spamFilter) ↔ CallsOneOf c.commands.asChat text) ∧
      (route c .command text = some (.chain .command) ↔
        ¬CallsOneOf c.commands.asChat text ∧ ¬CallsOneOf c.commands.blacklist text ∧
          (c.commands.whitelist = [] ∨ CallsOneOf c.commands.whitelist text)) ∧
      (route c .command text = none ↔
        ¬CallsOneOf c.commands.asChat text ∧
          (CallsOneOf c.commands.blacklist text ∨
            (c.commands.whitelist ≠ [] ∧ ¬CallsOneOf c.commands.whitelist text))) := by
  have hnames := checkCommands_eq_ok_iff.1 (check_eq_ok_iff.1 h).2.1
  refine ⟨fun name hname => ⟨exists_calls (hnames name hname), fun text => (calls_iff (hnames name hname)).symm,
    fun other hother text hcalls hcalls' => ?_⟩, fun text => ?_⟩
  · rw [calls_iff (hnames name hname), listed_singleton] at hcalls
    rw [calls_iff (hnames other hother), listed_singleton] at hcalls'
    exact hcalls.trans hcalls'.symm
  · simp only [CommandLists.names, List.mem_append, or_imp, forall_and] at hnames
    obtain ⟨⟨hasChat, hwhitelist⟩, hblacklist⟩ := hnames
    have hchat : c.commands.isChat (String.ofList (commandName text.toList)) = true ↔
        CallsOneOf c.commands.asChat text := (callsOneOf_iff hasChat).symm
    have hfiltered : c.commands.isFiltered (String.ofList (commandName text.toList)) = true ↔
        (c.commands.whitelist = [] ∨ CallsOneOf c.commands.whitelist text) ∧
          ¬CallsOneOf c.commands.blacklist text := by
      rw [callsOneOf_iff hwhitelist, callsOneOf_iff hblacklist]
      simp [CommandLists.isFiltered]
    have hroute : route c .command text =
        if c.commands.isChat (String.ofList (commandName text.toList)) then some (.chat c.commands.spamFilter)
        else if c.commands.isFiltered (String.ofList (commandName text.toList)) then some (.chain .command)
        else none := rfl
    by_cases hone : CallsOneOf c.commands.asChat text
    · rw [hroute, if_pos (hchat.2 hone)]
      exact ⟨iff_of_true rfl hone, iff_of_false nofun fun h => h.1 hone, iff_of_false nofun fun h => h.1 hone⟩
    · rw [hroute, if_neg fun h => hone (hchat.1 h)]
      by_cases hthrough : c.commands.isFiltered (String.ofList (commandName text.toList)) = true
      · obtain ⟨hwhite, hblack⟩ := hfiltered.1 hthrough
        rw [if_pos hthrough]
        refine ⟨iff_of_false nofun hone, iff_of_true rfl ⟨hone, hblack, hwhite⟩, iff_of_false nofun ?_⟩
        rintro ⟨-, hblacked | ⟨hne, hunlisted⟩⟩
        · exact hblack hblacked
        · exact hwhite.elim hne hunlisted
      · rw [if_neg hthrough]
        refine ⟨iff_of_false nofun hone, iff_of_false nofun ?_, iff_of_true rfl ⟨hone, ?_⟩⟩
        · rintro ⟨-, hblack, hwhite⟩
          exact hthrough (hfiltered.2 ⟨hwhite, hblack⟩)
        · by_contra hneither
          rw [not_or, not_and_or, not_not, not_not] at hneither
          exact hthrough (hfiltered.2 hneither.symm)

def sorting : Config :=
  { commands := { asChat := ["/Tell"], whitelist := ["//me", "login"], blacklist := ["LOGIN"] } }

theorem listed_names_are_called_tell :
    sorting.check = .ok () ∧ Calls "/Tell" " // tELL bob" ∧ ¬Calls "//me" "/tell me" ∧
      route sorting .command " // tELL bob" = some (.chat false) ∧
      route sorting .command "me" = some (.chain .command) ∧
      route sorting .command "/login me" = none ∧ route sorting .command "/ /me" = none := by
  have hcheck : sorting.check = .ok () := ok_of_toOption (by decide +kernel)
  obtain ⟨hnames, hroutes⟩ := listed_names_are_called hcheck
  have htell : Calls "/Tell" " // tELL bob" := ((hnames "/Tell" (by decide)).2.1 _).1 (by decide +kernel)
  have hother : ¬Calls "//me" "/tell me" := fun h =>
    absurd (((hnames "//me" (by decide)).2.1 _).2 h) (by decide +kernel)
  exact ⟨hcheck, htell, hother, (hroutes _).1.2 ⟨_, by decide, htell⟩, by decide +kernel, by decide +kernel,
    by decide +kernel⟩

end Moderation
