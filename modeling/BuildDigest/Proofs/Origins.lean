import BuildDigest.Proofs.Pieces
import BuildDigest.Proofs.Unread

set_option autoImplicit false

namespace BuildDigest

namespace KeyMap

variable {α : Type}

def supply (m : KeyMap α) (key : String) (value : α) : KeyMap α :=
  if m.contains key then m else m.insert key value

theorem get?_supply (m : KeyMap α) (key k : String) (value : α) :
    (m.supply key value).get? k = (m.get? k).or (if k = key then some value else none) := by
  unfold supply contains
  cases found : m.get? key with
  | none =>
    rw [Option.isSome_none, if_neg Bool.false_ne_true, get?_insert]
    by_cases same : k = key
    · rw [if_pos same, if_pos same, same, found, Option.none_or]
    · rw [if_neg same, if_neg same, Option.or_none]
  | some v =>
    rw [Option.isSome_some, if_pos rfl]
    by_cases same : k = key
    · rw [same, found, Option.some_or]
    · rw [if_neg same, Option.or_none]

theorem supply_insert (m : KeyMap α) (key k : String) (value v : α) :
    (m.insert k v).supply key value = (m.supply key value).insert k v := by
  refine ext_get fun x => ?_
  rw [get?_supply, get?_insert, get?_insert, get?_supply]
  by_cases same : x = k
  · rw [if_pos same, if_pos same, Option.some_or]
  · rw [if_neg same, if_neg same]

end KeyMap

-- What a summary has of the location of a file of events. The name of the file gives way to a log.
def Unread.origin (location : String) : Unread where
  url _ := location
  files m :=
    if location.isEmpty then m else m.supply ((Run.fileName? location).getD location) location
  files_insert m name address := by
    split
    · rfl
    · exact m.supply_insert _ name location address

theorem Session.from_file_changed {σ : Type} (w : Watcher σ) (location : String) :
    (start w).fromFile location = (start w).changed (.origin location) := by
  simp only [fromFile, changed, Run.fromFile, Run.change, Unread.apply, Unread.origin]
  split <;> rfl

-- Whether the events come from a file or from an input, the same comes out of them, but for the
-- location of the file and its name among the related files.
theorem Settings.file_told_as_input (settings : Settings) (clock : Clock) (location : String)
    (content : Feed.Content) :
    let file := settings.summarize clock (.file location (.ok content))
    let input := settings.summarize clock (.input content)
    (∀ failure, file = .error failure ↔ input = .error failure) ∧
    ∀ outcome, input = .ok outcome →
      ∃ files, file = .ok ⟨{ outcome.summary with
          eventFileUrl := location
          relatedFiles := files }, outcome.completed⟩ ∧
        ∀ name, NamesFile location name → ∀ key, files.get? key =
          (outcome.summary.relatedFiles.get? key).or (if key = name then some location else none) := by
  intro file input
  have same : file = input.map fun outcome =>
      ⟨(Unread.origin location).apply outcome.summary, outcome.completed⟩ := by
    refine Eq.trans ?_ (Session.summarize_unread settings.watcher (.origin location) rfl
      settings.onViolation clock content.items (.start settings.watcher))
    rw [← Session.from_file_changed]
    rfl
  constructor
  · intro failure
    rw [same]
    cases input with
    | error cause => exact Iff.rfl
    | ok outcome => exact ⟨nofun, nofun⟩
  · intro outcome summarized
    rw [summarized] at same
    refine ⟨_, same, fun name named key => ?_⟩
    have told := named.file_name location name
    have given : ¬location.isEmpty := by
      intro empty
      rw [String.isEmpty_iff.1 empty] at told
      cases told
    simp only [Unread.origin]
    rw [if_neg given, told, Option.getD_some, KeyMap.get?_supply]

theorem Settings.log_named_as_file :
    let location := "runs/a.json"
    let bytes := Hash.utf8 ("\x7b\"payload\":\x7b\"kind\":\"build_tool_logs\",\"log\":" ++
      "[\x7b\"name\":\"a.json\",\"uri\":\" x \"\x7d]\x7d\x7d")
    let run := Settings.default.summarize fun _ => 0
    NamesFile location "a.json" ∧
    ∃ outcome files, run (.input bytes) = .ok outcome ∧
      run (.file location (.ok bytes)) = .ok ⟨{ outcome.summary with
        eventFileUrl := location
        relatedFiles := files }, outcome.completed⟩ ∧
      files.get? "a.json" = some "x" ∧ files.get? "b.json" = none := by
  intro location bytes run
  have named : NamesFile location "a.json" :=
    ⟨.inr ⟨"runs", by decide⟩, by decide, by decide, by decide, by decide⟩
  have logs : (run (.input bytes)).toOption.map (·.summary.relatedFiles.entries) =
      some [("a.json", "x")] := by decide +kernel
  cases summarized : run (.input bytes) with
  | error failure =>
    rw [summarized] at logs
    cases logs
  | ok outcome =>
    rw [summarized] at logs
    have entries : outcome.summary.relatedFiles.entries = [("a.json", "x")] := Option.some.inj logs
    obtain ⟨files, told, found⟩ :=
      (file_told_as_input .default (fun _ => 0) location bytes).2 outcome summarized
    refine ⟨named, outcome, files, rfl, told, ?_, ?_⟩
    · rw [found "a.json" named, KeyMap.get?, entries]
      rfl
    · rw [found "a.json" named, KeyMap.get?, entries]
      rfl

end BuildDigest
