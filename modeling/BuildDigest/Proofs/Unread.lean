import BuildDigest.Session

set_option autoImplicit false

namespace BuildDigest

-- A change to what no event reads. To the related files, it is the same before a file is put among
-- them and behind it.
structure Unread where
  mark : Bool → Bool := id
  url : String → String := id
  files : KeyMap String → KeyMap String := id
  files_insert : ∀ m name address, files (m.insert name address) = (files m).insert name address

namespace Unread

def apply (u : Unread) (s : Summary) : Summary :=
  { s with
    bepCompleted := u.mark s.bepCompleted
    eventFileUrl := u.url s.eventFileUrl
    relatedFiles := u.files s.relatedFiles }

def marking (mark : Bool) : Unread where
  mark _ := mark
  files_insert _ _ _ := rfl

end Unread

namespace Summary

variable (u : Unread)

@[simp] theorem add_section_unread (s : Summary) (part : Wire.CommandSection) :
    (u.apply s).addSection part = u.apply (s.addSection part) := by
  unfold addSection
  split
  · rfl
  · cases part.chunkList with
    | none => rfl
    | some chunks =>
      simp only
      split <;> rfl

@[simp] theorem add_sections_unread (parts : List Wire.CommandSection) (s : Summary) :
    parts.foldl addSection (u.apply s) = u.apply (parts.foldl addSection s) := by
  induction parts generalizing s with
  | nil => rfl
  | cons part rest ih => rw [List.foldl_cons, add_section_unread, ih, List.foldl_cons]

@[simp] theorem add_environment_unread (s : Summary) :
    (u.apply s).addEnvironment = (u.apply s.addEnvironment.1, s.addEnvironment.2) := by
  unfold addEnvironment Unread.apply
  cases Variable.number? s.envVars Variable.changeNumber with
  | error refusal => rfl
  | ok change =>
    simp only
    cases Variable.number? s.envVars Variable.patchsetNumber with
    | error refusal => rfl
    | ok patchset =>
      simp only [decodeCommitMessage]
      split <;> (simp only [addBuildUrl]; split <;> rfl)

@[simp] theorem add_command_line_unread (s : Summary) (c : Wire.CommandLine) :
    (u.apply s).addCommandLine c = (u.apply (s.addCommandLine c).1, (s.addCommandLine c).2) := by
  unfold addCommandLine
  split
  · rw [add_sections_unread, add_environment_unread]
  · rfl

end Summary

namespace Run

variable (u : Unread)

theorem tool_logs_unread (m : Wire.ToolLogs) (s : Summary) :
    toolLogs m (u.apply s) = u.apply (toolLogs m s) := by
  have files (logs : List Wire.File) (known : KeyMap String) :
      logs.foldl (fun files f => files.insert f.name (Blob.address f.uri)) (u.files known) =
        u.files (logs.foldl (fun files f => files.insert f.name (Blob.address f.uri)) known) := by
    induction logs generalizing known with
    | nil => rfl
    | cons f rest ih => rw [List.foldl_cons, ← u.files_insert, ih, List.foldl_cons]
  simp only [toolLogs, Unread.apply, files]

-- Of the clock, a payload asks for nothing but the next reading.
theorem payload_unread_at (clock : Clock) (p : Payload) (r other : Run)
    (changed : other.summary = u.apply r.summary) (now : clock other.readings = clock r.readings) :
    (other.payload clock p).1.summary = u.apply (r.payload clock p).1.summary ∧
      (other.payload clock p).2 = (r.payload clock p).2 ∧
      (other.readings = r.readings →
        (other.payload clock p).1.readings = (r.payload clock p).1.readings) := by
  obtain ⟨s, n⟩ := r
  obtain ⟨t, m⟩ := other
  simp only at changed now
  subst changed
  cases p with
  | structuredCommandLine c =>
    simp only [payload, commandLine, Summary.add_command_line_unread]
    exact ⟨trivial, trivial, id⟩
  | targetConfigured c =>
    simp only [payload, targetConfigured, now]
    split
    · exact ⟨rfl, rfl, id⟩
    · exact ⟨rfl, rfl, congrArg (· + 1)⟩
  | targetCompleted c =>
    simp only [payload, targetCompleted, now]
    split
    · exact ⟨rfl, rfl, id⟩
    · simp only [Unread.apply]
      split <;> exact ⟨rfl, rfl, congrArg (· + 1)⟩
  | testResult c =>
    simp only [payload, testResult]
    split <;> exact ⟨rfl, rfl, id⟩
  | testSummary c =>
    simp only [payload, testSummary]
    split
    · exact ⟨rfl, rfl, id⟩
    · simp only [Unread.apply]
      split <;> exact ⟨rfl, rfl, id⟩
  | fetch c =>
    simp only [payload, accept, change, fetch]
    split <;> exact ⟨rfl, trivial, id⟩
  | buildToolLogs c => exact ⟨tool_logs_unread u c s, rfl, id⟩
  | _ => exact ⟨rfl, rfl, id⟩

theorem payload_unread (clock : Clock) (p : Payload) (r : Run) :
    (r.change u.apply).payload clock p =
      ((r.payload clock p).1.change u.apply, (r.payload clock p).2) := by
  obtain ⟨summary, refusal, readings⟩ :=
    payload_unread_at u clock p r (r.change u.apply) rfl rfl
  refine Prod.ext ?_ refusal
  change _ = Run.mk (u.apply (r.payload clock p).1.summary) (r.payload clock p).1.readings
  rw [← summary, ← readings rfl]

-- An event that is taken sets the mark anew: only changes to the rest outlast it.
theorem take_unread (lasting : u.mark = id) (policy : ViolationPolicy) (clock : Clock) (e : Event)
    (r : Run) :
    (r.change u.apply).take policy clock e =
      ((r.take policy clock e).1.change u.apply, (r.take policy clock e).2) := by
  have marked (next : Run) : (next.change u.apply).markCompleted e.lastMessage =
      (next.markCompleted e.lastMessage).change u.apply := by
    simp only [markCompleted, change, Unread.apply, lasting, id]
  unfold take
  rw [payload_unread]
  cases r.payload clock e.payload with
  | mk next refusal =>
    cases refusal with
    | none => exact congrArg (·, none) (marked next)
    | some refusal =>
      simp only
      split
      · exact congrArg (·, none) (marked next)
      · rfl

end Run

namespace Session

variable {σ : Type} (w : Watcher σ) (u : Unread)

def changed (s : Session σ) : Session σ :=
  { s with run := s.run.change u.apply }

theorem take_item_unread (lasting : u.mark = id) (policy : ViolationPolicy) (clock : Clock)
    (item : Feed.Item) (s : Session σ) :
    (s.changed u).takeItem w policy clock item =
      (s.takeItem w policy clock item).map (changed u) := by
  cases item with
  | error fault => rfl
  | ok e =>
    simp only [takeItem, take, changed, Run.take_unread u lasting]
    cases (s.run.take policy clock e).2 <;> rfl

theorem take_all_unread (lasting : u.mark = id) (policy : ViolationPolicy) (clock : Clock)
    (items : List Feed.Item) (s : Session σ) :
    (s.changed u).takeAll w policy clock items =
      (s.takeAll w policy clock items).map (changed u) := by
  induction items generalizing s with
  | nil => rfl
  | cons item rest ih =>
    rw [takeAll, takeAll, take_item_unread w u lasting]
    cases s.takeItem w policy clock item with
    | error failure => rfl
    | ok next => exact ih next

theorem finish_unread (s : Session σ) :
    (s.changed u).finish w =
      (s.finish w).map fun outcome => ⟨u.apply outcome.summary, u.mark outcome.completed⟩ := by
  unfold finish changed Run.change Unread.apply
  simp only
  split
  · rfl
  · split <;> rfl

theorem summarize_unread (lasting : u.mark = id) (policy : ViolationPolicy) (clock : Clock)
    (items : List Feed.Item) (s : Session σ) :
    (s.changed u).summarize w policy clock items =
      (s.summarize w policy clock items).map fun outcome =>
        ⟨u.apply outcome.summary, outcome.completed⟩ := by
  rw [summarize, summarize, take_all_unread w u lasting]
  cases s.takeAll w policy clock items with
  | error failure => rfl
  | ok last =>
    refine (finish_unread w u last).trans ?_
    rw [lasting]
    rfl

end Session

end BuildDigest
