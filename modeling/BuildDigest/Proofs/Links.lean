import BuildDigest.Proofs.Messages
import BuildDigest.Proofs.Reports

set_option autoImplicit false

namespace BuildDigest

namespace Text

structure Tight (s : String) : Prop where
  first : ∀ c ∈ s.toList.head?, isBlank c = false
  last : ∀ c ∈ s.toList.getLast?, isBlank c = false

theorem trim_start_head (cs : List Char) (c : Char) (head : c ∈ (trimStart cs).head?) :
    isBlank c = false := by
  have noBlank := List.head?_dropWhile_not isBlank cs
  rw [show (cs.dropWhile isBlank).head? = some c from head] at noBlank
  exact noBlank

theorem trim_end_last (cs : List Char) (c : Char) (last : c ∈ (trimEnd cs).getLast?) :
    isBlank c = false := by
  rw [trimEnd, List.getLast?_reverse] at last
  exact trim_start_head cs.reverse c last

theorem trim_end_padded (cs : List Char) :
    ∃ blanks, cs = trimEnd cs ++ blanks ∧ ∀ c ∈ blanks, isBlank c := by
  refine ⟨(cs.reverse.takeWhile isBlank).reverse, ?_, fun c member => ?_⟩
  · rw [trimEnd, ← List.reverse_append, List.takeWhile_append_dropWhile, List.reverse_reverse]
  · exact List.all_eq_true.1 List.all_takeWhile c (List.mem_reverse.1 member)

structure Trims (text inner : String) : Prop where
  tight : Tight inner
  padded : ∃ before after, text.toList = before ++ inner.toList ++ after ∧
    ∀ c ∈ before ++ after, isBlank c

theorem trim_trims (s : String) : Trims s (trim s) := by
  obtain ⟨after, start, behind⟩ := trim_end_padded (trimStart s.toList)
  have inner : (trim s).toList = trimEnd (trimStart s.toList) := String.toList_ofList
  refine ⟨⟨fun c head => ?_, fun c last => ?_⟩, s.toList.takeWhile isBlank, after, ?_, ?_⟩
  · refine trim_start_head s.toList c ?_
    rw [inner] at head
    rw [start, List.head?_append, show _ = some c from head, Option.some_or]
    rfl
  · rw [inner] at last
    exact trim_end_last _ c last
  · rw [inner, List.append_assoc, ← start]
    exact List.takeWhile_append_dropWhile.symm
  · intro c member
    rcases List.mem_append.1 member with front | back
    · exact List.all_eq_true.1 List.all_takeWhile c front
    · exact behind c back

theorem Trims.empty_iff (text inner : String) (trims : Trims text inner) :
    inner = "" ↔ isAllBlank text := by
  obtain ⟨before, after, whole, blanks⟩ := trims.padded
  rw [isAllBlank, whole, List.all_eq_true]
  constructor
  · rintro rfl c member
    exact blanks c (by simpa using member)
  · intro allBlank
    by_contra some
    -- The first character of what is left would be blank.
    cases chars : inner.toList with
    | nil => exact some (String.toList_inj.1 (by rw [chars]; rfl))
    | cons c rest =>
      have noBlank := trims.tight.first c (by rw [chars]; rfl)
      rw [allBlank c (by simp [chars])] at noBlank
      cases noBlank

end Text

-- The link to a file that has an address. It leads nowhere if the address has nothing but blanks.
structure LinksTo (f : Wire.File) (link : String) : Prop where
  addressed : f.uri ≠ ""
  trimmed : Text.Trims f.uri link
  empty_iff : link = "" ↔ Text.isAllBlank f.uri

theorem address_links (f : Wire.File) (addressed : f.uri ≠ "") : LinksTo f (Blob.address f.uri) :=
  have trimmed := Text.trim_trims f.uri
  ⟨addressed, trimmed, trimmed.empty_iff⟩

namespace Blob

theorem of_file_links (f : Wire.File) (b : Blob) (linked : ofFile? f = some b) :
    LinksTo f b.uri := by
  unfold ofFile? at linked
  split at linked
  · cases linked
  · next addressed =>
    cases linked
    exact address_links f fun empty => addressed (String.isEmpty_iff.2 empty)

theorem of_optional_links (file : Option Wire.File) (b : Blob)
    (linked : file.bind ofFile? = some b) : ∃ f ∈ file, LinksTo f b.uri := by
  obtain ⟨f, given, found⟩ := Option.bind_eq_some_iff.1 linked
  exact ⟨f, given, of_file_links f b found⟩

theorem of_outputs_links (files : List Wire.File) (names : List String) (b : Blob)
    (linked : ofOutputs? files names = some b) : ∃ f ∈ files, LinksTo f b.uri := by
  obtain ⟨f, found, link⟩ := Option.bind_eq_some_iff.1 linked
  obtain ⟨name, -, named⟩ := List.exists_of_findSome?_eq_some found
  exact ⟨f, List.mem_of_find?_eq_some named, of_file_links f b link⟩

end Blob

def Payload.outputs : Payload → List Wire.File
  | .actionExecuted a => a.stdout.toList ++ a.stderr.toList
  | .testResult r => r.testActionOutput
  | _ => []

def Attempt.blobs (a : Attempt) : List Blob :=
  a.actionLogOutput.toList ++ a.undeclaredTestOutputs.toList

def Problem.blobs : Problem → List Blob
  | .action _ _ _ stdout stderr => stdout.toList ++ stderr.toList
  | .test _ _ _ attempts => attempts.flatMap Attempt.blobs
  | _ => []

theorem attempt_links (r : Wire.TestResult) (b : Blob) (linked : b ∈ (Attempt.ofResult r).blobs) :
    ∃ f ∈ r.testActionOutput, LinksTo f b.uri := by
  rcases List.mem_append.1 linked with log | outputs
  · exact Blob.of_outputs_links _ _ b (Option.mem_toList.1 log)
  · exact Blob.of_outputs_links _ _ b (Option.mem_toList.1 outputs)

theorem attempts_link (label : String) (events : List Event) (a : Attempt)
    (attempt : a ∈ attemptsOf label events) (b : Blob) (linked : b ∈ a.blobs) :
    ∃ e ∈ events, ∃ f ∈ e.payload.outputs, LinksTo f b.uri := by
  obtain ⟨e, recent, result⟩ := List.mem_filterMap.1 attempt
  obtain ⟨r, found, rfl⟩ := Option.map_eq_some_iff.1 result
  have member : e ∈ events :=
    List.mem_reverse.1 ((List.takeWhile_prefix _).subset (List.mem_reverse.1 recent))
  obtain ⟨payload, -⟩ := (Payload.result_view.eq_some_iff label e.payload r).1 found
  refine ⟨e, member, ?_⟩
  rw [payload]
  exact attempt_links r b linked

theorem candidate_links (signatures : List Pattern) (before : List Event) (e : Event) (p : Problem)
    (candidate : p ∈ e.candidates signatures before) (b : Blob) (linked : b ∈ p.blobs) :
    ∃ x ∈ before ++ [e], ∃ f ∈ x.payload.outputs, LinksTo f b.uri := by
  have made := Problem.made_of_event signatures before e p candidate
  cases payload : e.payload with
  | actionExecuted a =>
    rw [payload] at made
    cases made
    have own : ∃ f ∈ a.stdout.toList ++ a.stderr.toList, LinksTo f b.uri := by
      rcases List.mem_append.1 linked with out | err
      · obtain ⟨f, given, link⟩ := Blob.of_optional_links a.stdout b (Option.mem_toList.1 out)
        exact ⟨f, List.mem_append_left _ (Option.mem_toList.2 given), link⟩
      · obtain ⟨f, given, link⟩ := Blob.of_optional_links a.stderr b (Option.mem_toList.1 err)
        exact ⟨f, List.mem_append_right _ (Option.mem_toList.2 given), link⟩
    refine ⟨e, List.mem_append_right before (.head _), ?_⟩
    rw [payload]
    exact own
  | testSummary m =>
    rw [payload] at made
    cases made
    obtain ⟨attempt, collected, link⟩ := List.mem_flatMap.1 linked
    obtain ⟨x, member, found⟩ := attempts_link m.label before attempt collected b link
    exact ⟨x, List.mem_append_left _ member, found⟩
  | _ =>
    rw [payload] at made
    cases made <;> cases linked

theorem Run.log_links (policy : ViolationPolicy) (clock : Clock) (events : List Event) (r : Run)
    (url : String) (files : KeyMap String)
    (fresh : r = { summary := { eventFileUrl := url, relatedFiles := files } }) (name link : String)
    (linked : (r.after policy clock events).summary.relatedFiles.get? name = some link) :
    r.summary.relatedFiles.get? name = some link ∨
      ∃ m ∈ messages Payload.toolLogs? events, ∃ f ∈ m.log, f.name = name ∧ LinksTo f link := by
  rw [(after_tells policy clock events r url files fresh).files name] at linked
  cases log : (logsNamed name events).getLast? with
  | none =>
    rw [log] at linked
    exact .inl linked
  | some f =>
    rw [log] at linked
    cases linked
    obtain ⟨member, addressed⟩ := List.mem_filter.1 (List.mem_of_getLast? log)
    obtain ⟨m, message, member⟩ := List.mem_flatMap.1 member
    obtain ⟨addressed, named⟩ := of_decide_eq_true addressed
    exact .inr ⟨m, message, f, member, named, address_links f addressed⟩

-- What a history puts among the related files, and every blob of a problem that it gives, links to a
-- file with an address. A link has no blanks at its ends, and is empty only for an address of blanks.
theorem Session.links_of_history (settings : Settings) (policy : ViolationPolicy) (clock : Clock)
    (origin : Option String) (events : List Event) :
    let fresh := opened settings.watcher origin
    let s := fresh.after settings.watcher policy clock events
    (∀ name link, s.run.summary.relatedFiles.get? name = some link →
      fresh.run.summary.relatedFiles.get? name = some link ∨
        ∃ m ∈ messages Payload.toolLogs? events, ∃ f ∈ m.log, f.name = name ∧ LinksTo f link) ∧
    ∀ p ∈ s.watch.problems, ∀ b ∈ p.blobs,
      ∃ e ∈ events, ∃ f ∈ e.payload.outputs, LinksTo f b.uri := by
  intro fresh s
  constructor
  · intro name link linked
    obtain ⟨url, files, start⟩ := opened_run settings.watcher origin
    exact Run.log_links policy clock events fresh.run url files start name link linked
  · intro p found b linked
    have follows := Findings.after_follows settings.signatures events
    have detected : s.watch.problems = distinct (candidates settings.signatures events) := by
      rw [← follows.holds.problems]
      change (settings.watcher.after events fresh.watch).problems = _
      rw [opened_watch]
      rfl
    rw [detected] at found
    obtain ⟨before, e, after, rfl, candidate, -⟩ :=
      reported_candidate settings.signatures events p found
    obtain ⟨x, member, file⟩ := candidate_links settings.signatures before e p candidate b linked
    refine ⟨x, ?_, file⟩
    rw [List.append_cons]
    exact List.mem_append_left after member

theorem Session.links_of_padded_addresses :
    let settings := Settings.default
    let events : List Event :=
      [{ payload := .buildToolLogs { log := [{ name := "log", uri := " x " }] } },
        { payload := .actionExecuted { label := "//a", stderr := some { uri := "y\n" } } }]
    let s := (opened settings.watcher none).after settings.watcher .abort (fun _ => 0) events
    s.run.summary.relatedFiles.get? "log" = some "x" ∧
      (∃ m ∈ messages Payload.toolLogs? events, ∃ f ∈ m.log, f.name = "log" ∧ LinksTo f "x") ∧
      ∃ p ∈ s.watch.problems, ∃ b ∈ p.blobs, b.uri = "y" ∧
        ∃ e ∈ events, ∃ f ∈ e.payload.outputs, LinksTo f b.uri := by
  intro settings events s
  obtain ⟨files, problems⟩ := links_of_history settings .abort (fun _ => 0) none events
  refine ⟨rfl, (files "log" "x" rfl).resolve_left nofun, _, .head _, _, .head _, rfl, ?_⟩
  exact problems _ (.head _) _ (.head _)

-- Addresses of blanks alone make links that lead nowhere, to a log and to the output of an action.
theorem Session.blank_addresses_linked :
    let settings := Settings.default
    let events : List Event :=
      [{ payload := .buildToolLogs { log := [{ name := "log", uri := " " }] } },
        { payload := .actionExecuted { label := "//a", stderr := some { uri := " " } } }]
    let s := (opened settings.watcher none).after settings.watcher .abort (fun _ => 0) events
    (¬∀ name link, s.run.summary.relatedFiles.get? name = some link → link ≠ "" ∧ Text.Tight link) ∧
      ¬∀ p ∈ s.watch.problems, ∀ b ∈ p.blobs, b.uri ≠ "" ∧ Text.Tight b.uri := by
  intro settings events s
  constructor
  · intro links
    exact (links "log" "" rfl).1 rfl
  · intro links
    exact (links _ (.head _) _ (.head _)).1 rfl

end BuildDigest
