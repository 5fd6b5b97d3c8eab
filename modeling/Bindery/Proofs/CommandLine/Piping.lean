import Bindery.Proofs.CommandLine.Switches
import Bindery.Proofs.Text.Occurrence

/-!
Contract: what a run that asks for an excerpt writes to the standard stream.

Owns:
- `AsksExcerpt`, the words that ask for one excerpt as text, and that a command with any of the
  flags of the program but the one for JSON is such words;
- `extraction`, the part of such a run that fetches the excerpt;
- what comes out: the excerpt and a line feed, less the terminal sequences in it, and nothing at
  all where the extraction fails.

Does **not** own: the excerpt itself (`Bindery.Excerpt`), and the error stream.

## What is lost on the way

Every form for people passes the content on as it is. The printing does not: it takes terminal
sequences out of whatever it is given, and a file of the source repository may hold some.
-/

namespace Bindery.CommandLine

/-! ## Words that ask for an excerpt -/

/-- Words that ask for the excerpt at one location, as text: read by the program and by the command,
with nothing that is done at once. -/
structure AsksExcerpt (words : List String) (parsed inner : Parsed) (location : String) : Prop where
  read : readWords programOptions false words = .ok parsed
  goesOn : parsed.immediate programOptions = none
  asText : parsed.isGiven "json_output" = false
  named : ∃ rest, parsed.arguments = excerptCommand.name :: rest ∧
    readWords excerptCommand.options true rest = .ok inner
  goesOnInside : inner.immediate excerptCommand.options = none
  located : inner.arguments = [location]

/-- The flags that leave a result text. -/
def textFlags : List String :=
  ["-q", "--quiet", "-v", "--verbose", "--log-json"]

/-- The keys of these flags. -/
def textFlagKeys : List String :=
  ["quiet", "verbose", "log_json"]

def sectionWords : Option String → List String
  | none => []
  | some name => ["--section", name]

/-- The words behind the name of the command. -/
def excerptArguments (name : Option String) (location : String) : List String :=
  sectionWords name ++ ["--", location]

def excerptWords (flags : List String) (name : Option String) (location : String) : List String :=
  flags ++ excerptCommand.name :: excerptArguments name location

def sectionGiven : Option String → List Occurrence
  | none => []
  | some name => [⟨"section", some name⟩]

/-- A flag gives its key, and nothing else. -/
theorem readWords_textFlag {flag : String} (among : flag ∈ textFlags) :
    ∃ key ∈ textFlagKeys, ∀ rest,
      readWords programOptions false (flag :: rest) =
        (readWords programOptions false rest).map (·.addOptions [⟨key, none⟩]) := by
  rcases List.mem_cons.1 among with rfl | among
  · exact ⟨"quiet", by decide, fun _ => rfl⟩
  rcases List.mem_cons.1 among with rfl | among
  · exact ⟨"quiet", by decide, fun _ => rfl⟩
  rcases List.mem_cons.1 among with rfl | among
  · exact ⟨"verbose", by decide, fun _ => rfl⟩
  rcases List.mem_cons.1 among with rfl | among
  · exact ⟨"verbose", by decide, fun _ => rfl⟩
  rcases List.mem_cons.1 among with rfl | among
  · exact ⟨"log_json", by decide, fun _ => rfl⟩
  · contradiction

theorem readWords_textFlags {flags : List String} (among : ∀ flag ∈ flags, flag ∈ textFlags)
    (rest : List String) :
    ∃ given : List Occurrence, (∀ one ∈ given, one.key ∈ textFlagKeys) ∧
      readWords programOptions false (flags ++ excerptCommand.name :: rest) =
        .ok ⟨given, excerptCommand.name :: rest⟩ := by
  induction flags with
  | nil => exact ⟨[], by simp, readWords_argument programOptions rest (by decide) (by decide)⟩
  | cons flag others inductionHypothesis =>
      obtain ⟨key, known, reads⟩ := readWords_textFlag (among flag List.mem_cons_self)
      obtain ⟨given, keys, answered⟩ :=
        inductionHypothesis fun other member => among other (List.mem_cons_of_mem _ member)
      refine ⟨⟨key, none⟩ :: given, ?_, ?_⟩
      · intro one member
        rcases List.mem_cons.1 member with rfl | later
        · exact known
        · exact keys one later
      · rw [List.cons_append, reads, answered]
        rfl

/-- No flag among these is done at once. -/
theorem immediate_of_textFlags {given : List Occurrence} {arguments : List String}
    (keys : ∀ one ∈ given, one.key ∈ textFlagKeys) :
    (Parsed.mk given arguments).immediate programOptions = none := by
  apply List.findSome?_eq_none_iff.2
  intro one member
  have known : ∀ key ∈ textFlagKeys,
      (programOptions.find? fun option => option.key = key).bind (·.immediate) = none := by
    decide
  exact known one.key (keys one member)

theorem isGiven_of_textFlags {given : List Occurrence} {arguments : List String}
    (keys : ∀ one ∈ given, one.key ∈ textFlagKeys) :
    (Parsed.mk given arguments).isGiven "json_output" = false := by
  apply List.any_eq_false.2
  intro one member same
  have absent : "json_output" ∉ textFlagKeys := by decide
  exact absent (of_decide_eq_true same ▸ keys one member)

theorem readWords_excerptArguments (name : Option String) (location : String) :
    readWords excerptCommand.options true (excerptArguments name location) =
      .ok ⟨sectionGiven name, [location]⟩ := by
  cases name <;> rfl

/-- Any of the flags, with or without a section, ask for the excerpt at any location. -/
theorem asksExcerpt_excerptWords {flags : List String} (among : ∀ flag ∈ flags, flag ∈ textFlags)
    (name : Option String) (location : String) :
    ∃ parsed, AsksExcerpt (excerptWords flags name location) parsed
      ⟨sectionGiven name, [location]⟩ location := by
  obtain ⟨given, keys, answered⟩ := readWords_textFlags among (excerptArguments name location)
  refine ⟨⟨given, excerptCommand.name :: excerptArguments name location⟩, ?_⟩
  exact {
    read := answered
    goesOn := immediate_of_textFlags keys
    asText := isGiven_of_textFlags keys
    named := ⟨_, rfl, readWords_excerptArguments name location⟩
    goesOnInside := by cases name <;> rfl
    located := rfl }

/-! ## What is printed of an outcome -/

/-- Printing keeps a text exactly when there is no terminal sequence in it. -/
theorem printed_eq_iff {text : String} :
    printed text = text ++ "\n" ↔ Text.occurs terminalSequence text.toList = false := by
  rw [← Text.erase_eq_self_iff]
  unfold printed
  constructor
  · intro same
    have characters := congrArg String.toList same
    rw [String.toList_append, String.toList_append, String.toList_ofList] at characters
    exact List.append_cancel_right characters
  · intro same
    rw [same, String.ofList_toList]

variable {form : ReportForm} {lines : List String} {warnings : List String}

theorem ofOutcome_of_ok {data : Entries} (asText : form.json = false) :
    (Finished.ofOutcome form (.success "snippet" data warnings)).exitCode = 0 ∧
      (Finished.ofOutcome form (.success "snippet" data warnings)).stdout =
        printed (Report.content (.success "snippet" data warnings)) := by
  have rendered : form.render (.success "snippet" data warnings) =
      .ok (Report.content (.success "snippet" data warnings)) := by
    unfold ReportForm.render
    rw [asText]
    cases form.quiet <;> rfl
  unfold Finished.ofOutcome
  rw [rendered]
  exact ⟨rfl, rfl⟩

/-- Nothing of a failure goes to the standard stream, even if it cannot be shown. -/
theorem ofOutcome_of_failed (form : ReportForm) (op : String) (failure : Failure) :
    (Finished.ofOutcome form (.failed op failure)).exitCode = 1 ∧
      (Finished.ofOutcome form (.failed op failure)).stdout = "" := by
  unfold Finished.ofOutcome
  split
  · exact ⟨rfl, rfl⟩
  · exact ⟨rfl, rfl⟩

/-! ## The run -/

/-- The part of a run that fetches the excerpt, from the moment there are settings. -/
def extraction (settings : Settings) (location : String) (name : Option String) :
    Action (List String) := do
  startRecording settings
  Excerpt.forgetMissing
  (settings.book none).excerptLines location name

/-- What a run says in the end of an action that may have failed. -/
def finishedOf : Except Fault Finished → Finished
  | .ok finished => finished
  | .error fault => .escapes (.fault fault)

/-- A run that told its end: nothing but what is written of the log is added to it. -/
structure Tells (finished told : Finished) : Prop where
  exitCode : told.exitCode = finished.exitCode
  stdout : told.stdout = finished.stdout

theorem exec_writeLog (settings : Settings) (action : Action Finished) (world : World) :
    ∃ told after, (writeLog settings action).exec world = (.ok told, after) ∧
      Tells (finishedOf (action.exec world).1) told := by
  unfold writeLog
  simp only [Action.exec_bind, Action.exec_observe, Action.exec_ofEffect]
  rcases action.exec world with ⟨answer, after⟩
  cases answer with
  | ok finished => exact ⟨_, after, rfl, ⟨rfl, rfl⟩⟩
  | error fault => exact ⟨_, after, rfl, ⟨rfl, rfl⟩⟩

/-- What an extraction has to come out as: its lines, or nothing. -/
def Delivered (answer : Except Fault (List String)) (finished : Finished) : Prop :=
  match answer with
  | .ok lines => finished.exitCode = 0 ∧ finished.stdout = printed (Text.joinLines lines)
  | .error _ => finished.exitCode = 1 ∧ finished.stdout = ""

theorem Delivered.of_tells {answer : Except Fault (List String)} {finished told : Finished}
    (delivered : Delivered answer finished) (tells : Tells finished told) :
    Delivered answer told := by
  cases answer with
  | ok lines => exact ⟨tells.exitCode.trans delivered.1, tells.stdout.trans delivered.2⟩
  | error fault => exact ⟨tells.exitCode.trans delivered.1, tells.stdout.trans delivered.2⟩

/-- The operation on the book delivers what its extraction answers. -/
theorem delivered_showExcerpt {book : Book} {location : String} {name : Option String}
    (asText : form.json = false) (world : World) :
    Delivered ((Excerpt.forgetMissing >>= fun _ => book.excerptLines location name).exec world).1
      (finishedOf ((book.showExcerpt location name >>= fun outcome =>
        pure (Finished.ofOutcome form outcome)).exec world).1) := by
  have forgets : Excerpt.forgetMissing.exec world = (.ok (), { world with missing := [] }) := rfl
  unfold Book.showExcerpt
  rw [bind_assoc, Action.exec_bind_of_ok forgets, Action.exec_bind_of_ok forgets]
  rcases fetched : (book.excerptLines location name).exec { world with missing := [] } with
    ⟨answer, after⟩
  unfold Book.settle
  rw [Action.exec_bind, Action.exec_ofEffect]
  cases answer with
  | ok lines =>
      rw [Action.exec_bind_of_ok fetched]
      exact ofOutcome_of_ok asText
  | error fault =>
      rw [Action.exec_bind_of_error fetched]
      simp only
      cases Book.reported? fault with
      | none => exact ⟨rfl, rfl⟩
      | some failure => exact ofOutcome_of_failed form "snippet" failure

/-- With good arguments the command is nothing but the operation. -/
theorem runCommand_excerpt {settings : Settings} {rest : List String} {inner : Parsed}
    {location : String} (read : readWords excerptCommand.options true rest = .ok inner)
    (goesOn : inner.immediate excerptCommand.options = none)
    (located : inner.arguments = [location]) :
    runCommand settings excerptCommand rest =
      (settings.book none).showExcerpt location (inner.valueOf "section") >>= fun outcome =>
        pure (Finished.ofOutcome (reportForm settings) outcome) := by
  have checked : checkArguments excerptCommand inner = pure none := by
    unfold checkArguments
    rw [located]
    rfl
  have operates : operate (settings.book none) excerptCommand inner =
      (settings.book none).showExcerpt location (inner.valueOf "section") := by
    unfold operate
    rw [located]
    rfl
  unfold runCommand
  rw [read]
  simp only [goesOn, checked, pure_bind, operates]

theorem delivered_runCommand {settings : Settings} {rest : List String} {inner : Parsed}
    {location : String} (read : readWords excerptCommand.options true rest = .ok inner)
    (goesOn : inner.immediate excerptCommand.options = none)
    (located : inner.arguments = [location]) (asText : settings.switches.json = false)
    (start : World) :
    ∃ told after,
      (startRecording settings >>= fun _ =>
        writeLog settings (runCommand settings excerptCommand rest)).exec start =
          (.ok told, after) ∧
      Delivered ((extraction settings location (inner.valueOf "section")).exec start).1 told := by
  obtain ⟨opened, recording⟩ : ∃ opened, (startRecording settings).exec start = (.ok (), opened) :=
    ⟨_, Action.exec_update _ start⟩
  rw [Action.exec_bind_of_ok recording]
  obtain ⟨told, after, ran, tells⟩ :=
    exec_writeLog settings (runCommand settings excerptCommand rest) opened
  refine ⟨told, after, ran, ?_⟩
  unfold extraction
  rw [Action.exec_bind_of_ok recording]
  apply Delivered.of_tells _ tells
  rw [runCommand_excerpt read goesOn located]
  exact delivered_showExcerpt asText opened

variable {words : List String} {parsed inner : Parsed} {location : String} {settings : Settings}
  {world start : World}

/-- Words that ask for an excerpt lead to the command, once the directory passes and there are
settings. -/
theorem delivered_run (asks : AsksExcerpt words parsed inner location)
    (admitted : ((checkDirectory parsed).exec world).1 = .ok none)
    (loaded : (settingsOf parsed).exec world = (.ok (.ok settings), start)) :
    Delivered ((extraction settings location (inner.valueOf "section")).exec start).1
      (run words world).1 := by
  obtain ⟨rest, leading, readInside⟩ := asks.named
  obtain ⟨set, rfl⟩ := (observes_settingsOf parsed).of_exec loaded
  have asText : settings.switches.json = false := by
    rw [switches_of_settingsOf set]
    exact asks.asText
  have proceeds := exec_runWords asks.read asks.goesOn admitted leading rfl set
  obtain ⟨told, after, ran, delivered⟩ :=
    delivered_runCommand readInside asks.goesOnInside asks.located asText start
  have ends : (run words start).1 = told := by
    unfold run
    rw [proceeds, ran]
  rw [ends]
  exact delivered

/-- A run that asks for an excerpt as text exits with zero if the excerpt is there, and then writes
it and a line feed to the standard stream, in which every terminal sequence is missing: so it comes
through character for character exactly when it holds none. If there is no excerpt, the run exits
with one and the standard stream stays empty. -/
theorem excerpt_piped_iff (asks : AsksExcerpt words parsed inner location)
    (admitted : ((checkDirectory parsed).exec world).1 = .ok none)
    (loaded : (settingsOf parsed).exec world = (.ok (.ok settings), start)) :
    (∀ lines, ((extraction settings location (inner.valueOf "section")).exec start).1 = .ok lines →
      (run words world).1.exitCode = 0 ∧
      (run words world).1.stdout =
        String.ofList (Text.erase terminalSequence (Text.joinLines lines).toList) ++ "\n" ∧
      ((run words world).1.stdout = Text.joinLines lines ++ "\n" ↔
        Text.occurs terminalSequence (Text.joinLines lines).toList = false)) ∧
    ∀ fault, ((extraction settings location (inner.valueOf "section")).exec start).1 = .error fault →
      (run words world).1.exitCode = 1 ∧ (run words world).1.stdout = "" := by
  have delivered := delivered_run asks admitted loaded
  constructor
  · intro lines fetched
    rw [fetched] at delivered
    obtain ⟨exits, prints⟩ := delivered
    refine ⟨exits, prints, ?_⟩
    rw [prints]
    exact printed_eq_iff
  · intro fault refused
    rw [refused] at delivered
    exact delivered

/-! ## A coloured file -/

/-- A project whose only source holds two terminal sequences, on the branch that is checked out. -/
def colouredWorld : World where
  files := ⟨[(["book"], .directory), (["book", "src"], .directory),
    (["book", "src", "a.scala"], .file ⟨Text.encode "\x1b[31mred\x1b[0m\n", 0, false⟩)]⟩
  now := 5000
  base := ["book"]
  environment := []
  runner := .rehearsed [⟨["git", "branch"], 0, "* main\n", ""⟩]
  commands := []
  requests := []
  missing := []
  events := []
  recording := .start false fun _ => 0

/-- The settings of this project, which has no configuration file. -/
def colouredSettings (switches : Settings.Switches) : Settings :=
  ⟨.ofPlace ["book"], none, switches, .default, .default, .default⟩

/-- What the words with all three flags are read as. -/
def colouredWords : Parsed :=
  ⟨[⟨"quiet", none⟩, ⟨"verbose", none⟩, ⟨"log_json", none⟩],
    excerptCommand.name :: excerptArguments none "main:a.scala"⟩

theorem asksExcerpt_colouredWords :
    AsksExcerpt (excerptWords ["-q", "-v", "--log-json"] none "main:a.scala") colouredWords
      ⟨sectionGiven none, ["main:a.scala"]⟩ "main:a.scala" where
  read := rfl
  goesOn := by decide
  asText := by decide
  named := ⟨_, rfl, rfl⟩
  goesOnInside := rfl
  located := rfl

set_option maxRecDepth 4000 in
/-- With all three flags the excerpt is found, and its two terminal sequences are missing. -/
theorem excerpt_piped_iff_coloured :
    ∃ settings start lines,
      (settingsOf colouredWords).exec colouredWorld = (.ok (.ok settings), start) ∧
      ((extraction settings "main:a.scala" none).exec start).1 = .ok lines ∧
      (run (excerptWords ["-q", "-v", "--log-json"] none "main:a.scala") colouredWorld).1.exitCode
        = 0 ∧
      ((run (excerptWords ["-q", "-v", "--log-json"] none "main:a.scala") colouredWorld).1.stdout
          = Text.joinLines lines ++ "\n" ↔
        Text.occurs terminalSequence (Text.joinLines lines).toList = false) := by
  have admitted : ((checkDirectory colouredWords).exec colouredWorld).1 = .ok none := rfl
  have loaded : (settingsOf colouredWords).exec colouredWorld =
      (.ok (.ok (colouredSettings ⟨false, true, true, true⟩)), colouredWorld) := rfl
  have fetched : ((extraction (colouredSettings ⟨false, true, true, true⟩) "main:a.scala"
      (Parsed.valueOf ⟨sectionGiven none, ["main:a.scala"]⟩ "section")).exec colouredWorld).1 =
      .ok ["\x1b[31mred\x1b[0m"] := rfl
  obtain ⟨exits, _, intact⟩ :=
    (excerpt_piped_iff asksExcerpt_colouredWords admitted loaded).1 _ fetched
  exact ⟨_, _, _, loaded, fetched, exits, intact⟩

set_option maxRecDepth 4000 in
/-- Without any flag the same excerpt is found and does not come through as it is. -/
theorem coloured_excerpt_altered :
    (settingsOf ⟨[], ["snippet", "main:a.scala"]⟩).exec colouredWorld =
        (.ok (.ok (colouredSettings .default)), colouredWorld) ∧
      ((extraction (colouredSettings .default) "main:a.scala" none).exec colouredWorld).1 =
        .ok ["\x1b[31mred\x1b[0m"] ∧
      (run ["snippet", "main:a.scala"] colouredWorld).1.exitCode = 0 ∧
      (run ["snippet", "main:a.scala"] colouredWorld).1.stdout ≠
        Text.joinLines ["\x1b[31mred\x1b[0m"] ++ "\n" := by
  have exits : (run ["snippet", "main:a.scala"] colouredWorld).1.exitCode = 0 := by
    decide +kernel
  have prints : (run ["snippet", "main:a.scala"] colouredWorld).1.stdout = "red\n" := rfl
  refine ⟨rfl, rfl, exits, ?_⟩
  rw [prints]
  decide

end Bindery.CommandLine
