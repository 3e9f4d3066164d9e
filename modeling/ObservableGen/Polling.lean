import ObservableGen.Settings
set_option autoImplicit false

/-!
Passes that are given a flag to ask, and leave it in the state that the questions have brought it to.
-/
namespace ObservableGen

-- A flag as a host keeps it, who may have changed it by the next question.
abbrev Poll (σ : Type) := σ → Bool × σ

namespace Pass

variable {σ : Type}

def discoverPolling (host : Host) (base : TypeName) (poll : Poll σ) (state : σ) :
    List Candidate → Except Cancelled (List (TypeName × Admitted)) × σ
  | [] => (.ok [], state)
  | candidate :: rest =>
      let answer := poll state
      if answer.1 then (.error .cancelled, answer.2)
      else
        let further := discoverPolling host base poll answer.2 rest
        match acceptance host base candidate with
        | .error _ => further
        | .ok marker => (further.1.map ((candidate.owner, marker, candidate) :: ·), further.2)

def runPolling (options : Options) (host : Host) (candidates : List Candidate) (poll : Poll σ) (state : σ) :
    Except Cancelled Output × σ :=
  let found := discoverPolling host options.observableBase poll state candidates
  (found.1.map fun admitted => (generate options host admitted).value, found.2)

end Pass

namespace Generation

variable {σ : Type}

def ofDocumentPolling (document : String) (host : Host) (candidates : List Candidate) (poll : Poll σ) (state : σ) :
    Except GenerationError Output × σ :=
  match Settings.read document with
  | .error reason => (.error (.settings reason), state)
  | .ok settings =>
      let ran := Pass.runPolling settings.toOptions host candidates poll state
      (ran.1.mapError fun | .cancelled => .cancelled, ran.2)

end Generation

end ObservableGen
