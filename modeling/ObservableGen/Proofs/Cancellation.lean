import ObservableGen.Proofs.Notification
import ObservableGen.Polling
set_option autoImplicit false

/-!
Flags that end a pass before its time. Main statement: what comes of a pass depends on as many answers as there are
candidates, the first yes among them leaves nothing but the cancellation, and the flag is asked no further than that;
settings that are refused leave it alone.
-/
namespace ObservableGen

-- How often a flag is asked about so many candidates: up to the first yes, or once for each.
inductive AskedUpTo (flag : Cancellation) (count : Nat) : Nat → Prop
  | yes (question : Nat) (small : question < count) (said : flag question = true)
      (before : ∀ i < question, flag i = false) : AskedUpTo flag count (question + 1)
  | never (silent : ∀ i < count, flag i = false) : AskedUpTo flag count count

def questions (flag : Cancellation) : Nat → Nat
  | 0 => 0
  | count + 1 => if flag 0 then 1 else questions (fun i => flag (i + 1)) count + 1

theorem questions_asked (flag : Cancellation) (count : Nat) : AskedUpTo flag count (questions flag count) := by
  induction count generalizing flag with
  | zero => exact .never (by simp)
  | succ count ih =>
      rw [questions]
      by_cases yes : flag 0 = true
      · rw [if_pos yes]
        exact .yes 0 (Nat.succ_pos _) yes (by simp)
      · rw [if_neg yes]
        have first : flag 0 = false := by simpa using yes
        have further (bound : Nat) (silent : ∀ i < bound, flag (i + 1) = false) : ∀ i < bound + 1, flag i = false := by
          intro i small
          cases i with
          | zero => exact first
          | succ i => exact silent i (Nat.lt_of_succ_lt_succ small)
        have asked := ih fun i => flag (i + 1)
        generalize questions (fun i => flag (i + 1)) count = polls at asked
        cases asked with
        | yes question small said before => exact .yes (question + 1) (Nat.succ_lt_succ small) said (further _ before)
        | never silent => exact .never (further _ silent)

namespace Poll

variable {σ : Type}

def answers (poll : Poll σ) (state : σ) : Nat → Bool
  | 0 => (poll state).1
  | question + 1 => answers poll (poll state).2 question

-- What so many questions leave of the flag.
def after (poll : Poll σ) (state : σ) : Nat → σ
  | 0 => state
  | count + 1 => after poll (poll state).2 count

end Poll

namespace Pass

variable {σ : Type}

theorem discover_polls (host : Host) (base : TypeName) (flag : Cancellation) (polls : Nat)
    (candidates : List Candidate) : (discover host base flag polls candidates).value.polls =
      polls + questions (fun i => flag (polls + i)) candidates.length := by
  induction candidates generalizing polls with
  | nil => rfl
  | cons candidate rest ih =>
      have shifted : (fun i => flag (polls + 1 + i)) = fun i => flag (polls + (i + 1)) := by
        funext i
        rw [Nat.add_assoc, Nat.add_comm 1]
      have others := ih (polls + 1)
      rw [shifted] at others
      rw [discover, List.length_cons, questions]
      by_cases yes : flag polls = true
      · simp only [Nat.add_zero, if_pos yes, Reported.value_silent]
      · simp only [Nat.add_zero, if_neg yes]
        cases accepted : acceptance host base candidate with
        | error notice => rw [Reported.value_after, others, Nat.add_assoc, Nat.add_comm 1]
        | ok marker =>
            rw [Reported.value_map]
            exact others.trans (by omega)

-- Each question is put to the flag as the one before has left it, whatever becomes of the candidate.
theorem discover_polling (host : Host) (base : TypeName) (poll : Poll σ) (state : σ) (candidates : List Candidate) :
    discoverPolling host base poll state candidates =
      (if ∃ i < candidates.length, poll.answers state i = true then .error .cancelled
        else .ok (admitted host base candidates),
        poll.after state (questions (poll.answers state) candidates.length)) := by
  induction candidates generalizing state with
  | nil => simp [discoverPolling, admitted, questions, Poll.after]
  | cons candidate rest ih =>
      rw [discoverPolling, List.length_cons, questions, if_congr Nat.exists_lt_succ_left rfl rfl]
      by_cases yes : (poll state).1 = true
      · simp [yes, Poll.answers, Poll.after]
      · cases accepted : acceptance host base candidate with
        | error notice => simp [yes, ih, accepted, admitted, Poll.answers, Poll.after, Except.toOption]
        | ok marker =>
            by_cases later : ∃ i < rest.length, poll.answers (poll state).2 i = true
            · simp [yes, ih, later, Poll.answers, Poll.after, Except.map]
            · simp [yes, ih, accepted, later, admitted, Poll.answers, Poll.after, Except.map, Except.toOption]

theorem run_polls (options : Options) (host : Host) (candidates : List Candidate) (flag : Cancellation) :
    (run options host candidates flag).value.polls = questions flag candidates.length := by
  have found := discover_polls host options.observableBase flag 0 candidates
  simp only [Nat.zero_add] at found
  rw [← found, run, Reported.value_bind]
  split
  · rfl
  · rfl

theorem run_polling (options : Options) (host : Host) (candidates : List Candidate) (poll : Poll σ) (state : σ) :
    let asked := (run options host candidates (poll.answers state)).value
    runPolling options host candidates poll state = (asked.outcome, poll.after state asked.polls) := by
  dsimp only
  rw [run_polls, run_outcome, runPolling, discover_polling]
  by_cases yes : ∃ i < candidates.length, poll.answers state i = true
  · rw [if_pos yes, if_pos yes]
    rfl
  · rw [if_neg yes, if_neg yes]
    rfl

theorem run_cancelled_iff (options : Options) (host : Host) (candidates : List Candidate) (flag : Cancellation) :
    (run options host candidates flag).value.outcome = .error .cancelled ↔ ∃ i < candidates.length, flag i = true := by
  rw [run_outcome]
  by_cases yes : ∃ i < candidates.length, flag i = true
  · simp [yes]
  · simp [yes]

theorem run_ok_iff (options : Options) (host : Host) (candidates : List Candidate) (flag : Cancellation)
    (output : Output) : (run options host candidates flag).value.outcome = .ok output ↔
      (∀ i < candidates.length, flag i = false) ∧
        (run options host candidates fun _ => false).value.outcome = .ok output := by
  have complete := run_completes options host candidates (fun _ => false) fun _ _ => rfl
  rw [run_outcome, complete]
  by_cases yes : ∃ i < candidates.length, flag i = true
  · obtain ⟨i, small, said⟩ := yes
    rw [if_pos ⟨i, small, said⟩]
    constructor
    · rintro ⟨⟩
    · rintro ⟨silent, _⟩
      cases said.symm.trans (silent i small)
  · rw [if_neg yes]
    have silent : ∀ i < candidates.length, flag i = false := by simpa using yes
    exact ⟨fun same => ⟨silent, same⟩, And.right⟩

end Pass

namespace Generation

variable {σ : Type}

theorem run_value (settings : Settings) (host : Host) (candidates : List Candidate) (flag : Cancellation) :
    let asked := (Pass.run settings.toOptions host candidates flag).value
    (run settings host candidates flag).value =
      ⟨asked.polls, asked.outcome.mapError fun | .cancelled => .cancelled⟩ := by
  intro asked
  rw [run, Reported.value_bind]
  cases outcome : (Pass.run settings.toOptions host candidates flag).value.outcome with
  | error reason =>
      cases reason
      simp [asked, Except.mapError]
  | ok output => simp [asked, Except.mapError]

theorem of_document_polling (document : String) (host : Host) (candidates : List Candidate) (poll : Poll σ)
    (state : σ) :
    let generation := (ofDocument document host candidates (poll.answers state)).value
    ofDocumentPolling document host candidates poll state =
      (generation.outcome, poll.after state generation.polls) := by
  dsimp only
  rw [ofDocument, ofDocumentPolling]
  cases Settings.read document with
  | error reason => rfl
  | ok settings =>
      dsimp only
      rw [Pass.run_polling, run_value]

theorem of_document_refused_iff (document : String) (host : Host) (candidates : List Candidate) (flag : Cancellation)
    (reason : SettingsError) :
    (ofDocument document host candidates flag).value.outcome = .error (.settings reason) ↔
      Settings.read document = .error reason := by
  rw [ofDocument]
  cases Settings.read document with
  | error other => simp
  | ok settings =>
      dsimp only
      rw [run_value]
      cases (Pass.run settings.toOptions host candidates flag).value.outcome with
      | error reason => cases reason; simp [Except.mapError]
      | ok output => simp [Except.mapError]

theorem cancelled_by_first_answers (options : Options) (document : String) (host : Host) (candidates : List Candidate)
    (flag : Cancellation) :
    let count := candidates.length
    let asked := (Pass.run options host candidates flag).value
    let generation := (ofDocument document host candidates flag).value
    ((asked.outcome = .error .cancelled ↔ ∃ i < count, flag i = true) ∧
      (∃ output, (Pass.run options host candidates fun _ => false).value.outcome = .ok output) ∧
      (∀ output, asked.outcome = .ok output ↔ (∀ i < count, flag i = false) ∧
        (Pass.run options host candidates fun _ => false).value.outcome = .ok output) ∧
      AskedUpTo flag count asked.polls) ∧
    ((∀ reason, generation.outcome = .error (.settings reason) ↔ Settings.read document = .error reason) ∧
      (∀ reason, Settings.read document = .error reason → generation.polls = 0) ∧
      ∀ settings, Settings.read document = .ok settings →
        let asked := (Pass.run settings.toOptions host candidates flag).value
        generation = ⟨asked.polls, asked.outcome.mapError fun | .cancelled => .cancelled⟩) ∧
    ∀ (σ : Type) (poll : Poll σ) (state : σ), poll.answers state = flag →
      Pass.runPolling options host candidates poll state = (asked.outcome, poll.after state asked.polls) ∧
      ofDocumentPolling document host candidates poll state =
        (generation.outcome, poll.after state generation.polls) := by
  intro count asked generation
  refine ⟨⟨Pass.run_cancelled_iff options host candidates flag, ?_, Pass.run_ok_iff options host candidates flag, ?_⟩,
    ⟨of_document_refused_iff document host candidates flag, ?_, ?_⟩, ?_⟩
  · exact ⟨_, Pass.run_completes options host candidates (fun _ => false) fun _ _ => rfl⟩
  · have polls : asked.polls = questions flag count := Pass.run_polls options host candidates flag
    rw [polls]
    exact questions_asked flag count
  · intro reason refused
    simp [generation, ofDocument, refused, Reported.silent]
  · intro settings read
    have ran := run_value settings host candidates flag
    simpa [generation, ofDocument, read] using ran
  · rintro σ poll state rfl
    exact ⟨Pass.run_polling options host candidates poll state,
      of_document_polling document host candidates poll state⟩

-- A flag that gives prepared answers, and says no when there are none left.
def prepared : Poll (List Bool)
  | [] => (false, [])
  | answer :: rest => (answer, rest)

-- No generator comes of the first candidate, and the flag is asked about it none the less; the third answer is left.
theorem second_answer_cancels :
    let strange := Candidate.ofTarget ⟨"System.ObsoleteAttribute"⟩ Pass.sampleType.name (.type [])
    let candidates := strange :: Pass.sampleCandidates
    let answers := [false, true, false]
    let blank := "[generator]\nname = \" \""
    Pass.runPolling Options.default Pass.sampleHost candidates prepared answers = (.error .cancelled, [false]) ∧
      Settings.read blank = .error (.emptyField "generator.name") ∧
      ofDocumentPolling blank Pass.sampleHost candidates prepared answers =
        (.error (.settings (.emptyField "generator.name")), answers) := by
  intro strange candidates answers blank
  have refused : Settings.read blank = .error (.emptyField "generator.name") := by decide +kernel
  obtain ⟨⟨cancelled, _, _, upTo⟩, ⟨settings, unasked, _⟩, polled⟩ :=
    cancelled_by_first_answers Options.default blank Pass.sampleHost candidates (prepared.answers answers)
  obtain ⟨ran, read⟩ := polled (List Bool) prepared answers rfl
  have outcome := cancelled.mpr ⟨1, by decide, rfl⟩
  have twice (polls : Nat) (upTo : AskedUpTo (prepared.answers answers) candidates.length polls) : polls = 2 := by
    cases upTo with
    | yes question small said before =>
        have small : question < 2 := small
        obtain rfl | rfl : question = 0 ∨ question = 1 := by omega
        · cases said
        · rfl
    | never silent => cases silent 1 (by decide)
  refine ⟨?_, refused, ?_⟩
  · rw [ran, outcome, twice _ upTo]
    rfl
  · rw [read, (settings _).mpr refused, unasked _ refused]
    rfl

end Generation

end ObservableGen
