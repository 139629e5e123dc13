import BuildDigest.Problem

set_option autoImplicit false

namespace BuildDigest

def FirstOf {α : Type} (p : α → Prop) (xs : List α) (x : α) : Prop :=
  p x ∧ ∃ before after, xs = before ++ x :: after ∧ ∀ y ∈ before, ¬p y

section

variable {α : Type} (p : α → Prop)

theorem first_found [DecidablePred p] (xs : List α) (x : α) :
    xs.find? (fun y => p y) = some x ↔ FirstOf p xs x := by
  simp [List.find?_eq_some_iff_append, FirstOf]

theorem FirstOf.member (xs : List α) (x : α) (first : FirstOf p xs x) : x ∈ xs ∧ p x := by
  obtain ⟨holds, before, after, rfl, -⟩ := first
  exact ⟨by simp, holds⟩

theorem first_exists (xs : List α) (x : α) (member : x ∈ xs) (holds : p x) :
    ∃ y, FirstOf p xs y := by
  classical
  have found : (xs.find? fun y => p y).isSome := by
    rw [List.find?_isSome]
    exact ⟨x, member, decide_eq_true holds⟩
  obtain ⟨y, first⟩ := Option.isSome_iff_exists.1 found
  exact ⟨y, (first_found p xs y).1 first⟩

theorem FirstOf.unique (xs : List α) (x y : α) (one : FirstOf p xs x) (other : FirstOf p xs y) :
    x = y := by
  classical
  have same := ((first_found p xs x).2 one).symm.trans ((first_found p xs y).2 other)
  exact Option.some.inj same

end

-- The first file of the earliest name, among those that are allowed.
structure Foremost (allowed : Wire.File → Prop) (names : List String) (files : List Wire.File)
    (f : Wire.File) : Prop where
  name : FirstOf (fun name => ∃ g ∈ files, g.name = name ∧ allowed g) names f.name
  file : FirstOf (fun g => g.name = f.name ∧ allowed g) files f

def Wire.File.Addressed (f : Wire.File) : Prop :=
  f.uri ≠ ""

section

variable (allowed : Wire.File → Prop) (names : List String) (files : List Wire.File)

theorem Foremost.unique (f g : Wire.File) (one : Foremost allowed names files f)
    (other : Foremost allowed names files g) : f = g := by
  have name : f.name = g.name := FirstOf.unique _ names _ _ one.name other.name
  have file := one.file
  rw [name] at file
  exact FirstOf.unique _ files f g file other.file

theorem foremost_exists (f : Wire.File) (member : f ∈ files) (named : f.name ∈ names)
    (fits : allowed f) : ∃ g, Foremost allowed names files g := by
  obtain ⟨name, first⟩ := first_exists (fun name => ∃ g ∈ files, g.name = name ∧ allowed g) names
    f.name named ⟨f, member, rfl, fits⟩
  obtain ⟨h, own, same, allowed⟩ := first.1
  obtain ⟨g, file⟩ := first_exists (fun g => g.name = name ∧ _) files h own ⟨same, allowed⟩
  have same : g.name = name := file.1.1
  subst same
  exact ⟨g, first, file⟩

theorem Foremost.narrow (f : Wire.File) (foremost : Foremost allowed names files f)
    (narrower : Wire.File → Prop) (fits : narrower f) (within : ∀ g, narrower g → allowed g) :
    Foremost narrower names files f where
  name := by
    obtain ⟨-, earlier, later, split, others⟩ := foremost.name
    have member := foremost.file.member.1
    refine ⟨⟨f, member, rfl, fits⟩, earlier, later, split, fun other before found => ?_⟩
    obtain ⟨g, own, named, allowed⟩ := found
    exact others other before ⟨g, own, named, within g allowed⟩
  file := by
    obtain ⟨-, before, after, split, others⟩ := foremost.file
    refine ⟨⟨rfl, fits⟩, before, after, split, fun g earlier both => ?_⟩
    exact others g earlier ⟨both.1, within g both.2⟩

theorem foremost_found [DecidablePred allowed] (f : Wire.File) :
    (names.findSome? fun name => files.find? fun g => g.name = name ∧ allowed g) = some f ↔
      Foremost allowed names files f := by
  have absent (name : String) : (files.find? fun g => g.name = name ∧ allowed g) = none ↔
      ¬∃ g ∈ files, g.name = name ∧ allowed g := by
    simp
  rw [List.findSome?_eq_some_iff]
  constructor
  · intro ⟨earlier, name, later, split, found, others⟩
    have file := (first_found _ files f).1 found
    obtain ⟨member, rfl, fits⟩ := file.member
    exact ⟨⟨⟨f, member, rfl, fits⟩, earlier, later, split, fun other before =>
      (absent other).1 (others other before)⟩, file⟩
  · intro foremost
    obtain ⟨-, earlier, later, split, others⟩ := foremost.name
    exact ⟨earlier, f.name, later, split, (first_found _ files f).2 foremost.file,
      fun other before => (absent other).2 (others other before)⟩

end

namespace Blob

structure RefersTo (b : Blob) (f : Wire.File) : Prop where
  name : b.name = f.name
  uri : b.uri = Text.trim f.uri
  size : b.sizeInBytes = if 0 < f.length then some f.length else none

-- The link that is found among files: that to the foremost of all, if it has an address.
def FoundIn (files : List Wire.File) (names : List String) (b : Blob) : Prop :=
  ∃ f, Foremost (fun _ => True) names files f ∧ f.Addressed ∧ b.RefersTo f

theorem refers_exists (f : Wire.File) : ∃ b : Blob, b.RefersTo f :=
  ⟨⟨f.name, Text.trim f.uri, _⟩, rfl, rfl, rfl⟩

theorem of_file_refers (f : Wire.File) (b : Blob) :
    ofFile? f = some b ↔ f.Addressed ∧ b.RefersTo f := by
  rw [ofFile?]
  by_cases empty : f.uri = ""
  · rw [if_pos (String.isEmpty_iff.2 empty)]
    exact ⟨nofun, fun both => absurd empty both.1⟩
  · rw [if_neg (fun none => empty (String.isEmpty_iff.1 none)), Option.some.injEq]
    constructor
    · intro same
      rw [← same]
      exact ⟨empty, rfl, rfl, rfl⟩
    · intro ⟨_, name, uri, size⟩
      cases b
      cases name
      cases uri
      cases size
      rfl

theorem of_outputs_found (files : List Wire.File) (names : List String) (b : Blob) :
    ofOutputs? files names = some b ↔ FoundIn files names b := by
  have foremost (f : Wire.File) := foremost_found (fun _ => True) names files f
  simp only [and_true] at foremost
  simp only [ofOutputs?, Option.bind_eq_some_iff, foremost, of_file_refers]
  exact Iff.rfl

end Blob

-- The link is that to the foremost file of all, if it has an address: a file with one is missed
-- exactly where a file without one comes first.
theorem Blob.outputs_of_files (files : List Wire.File) (names : List String) :
    (∀ b, ofOutputs? files names = some b ↔ FoundIn files names b) ∧
    (∀ b, ofOutputs? files names = some b →
      ∃ f, Foremost Wire.File.Addressed names files f ∧ b.RefersTo f) ∧
    (∀ f ∈ files, f.name ∈ names → f.Addressed →
      (ofOutputs? files names = none ↔
        ∃ g, Foremost (fun _ => True) names files g ∧ ¬g.Addressed)) ∧
    ∀ (r : Wire.TestResult) (b : Blob),
      ((Attempt.ofResult r).actionLogOutput = some b ↔
        FoundIn r.testActionOutput Attempt.logNames b) ∧
      ((Attempt.ofResult r).undeclaredTestOutputs = some b ↔
        FoundIn r.testActionOutput Attempt.undeclaredNames b) := by
  refine ⟨of_outputs_found files names, fun b linked => ?_, fun f member named addressed => ?_,
    fun r b => ⟨of_outputs_found _ _ b, of_outputs_found _ _ b⟩⟩
  · obtain ⟨f, foremost, addressed, refers⟩ := (of_outputs_found files names b).1 linked
    exact ⟨f, foremost.narrow _ names files f _ addressed fun _ _ => trivial, refers⟩
  · obtain ⟨g, foremost⟩ := foremost_exists (fun _ => True) names files f member named trivial
    by_cases first : g.Addressed
    · obtain ⟨b, refers⟩ := refers_exists g
      rw [(of_outputs_found files names b).2 ⟨g, foremost, first, refers⟩]
      refine ⟨nofun, fun ⟨h, other, hidden⟩ => ?_⟩
      rw [other.unique _ names files h g foremost] at hidden
      exact absurd first hidden
    · refine ⟨fun _ => ⟨g, foremost, first⟩, fun _ => Option.eq_none_iff_forall_ne_some.2 ?_⟩
      intro b linked
      obtain ⟨h, other, addressed, -⟩ := (of_outputs_found files names b).1 linked
      rw [other.unique _ names files h g foremost] at addressed
      exact first addressed

theorem Attempt.outputs_hidden :
    let files : List Wire.File :=
      [{ name := "test.log" }, { name := "test.log", uri := "x" },
        { name := "test.outputs__outputs.zip" }, { name := "test.outputs", uri := "y" }]
    let a := ofResult { testActionOutput := files }
    ¬(a.actionLogOutput.isSome ↔ ∃ f ∈ files, f.name ∈ logNames ∧ f.Addressed) ∧
      ¬(a.undeclaredTestOutputs.isSome ↔ ∃ f ∈ files, f.name ∈ undeclaredNames ∧ f.Addressed) := by
  intro files a
  have log : ∃ f ∈ files, f.name ∈ logNames ∧ f.Addressed :=
    ⟨{ name := "test.log", uri := "x" }, by simp [files], by simp [logNames], nofun⟩
  have outputs : ∃ f ∈ files, f.name ∈ undeclaredNames ∧ f.Addressed :=
    ⟨{ name := "test.outputs", uri := "y" }, by simp [files], by simp [undeclaredNames], nofun⟩
  exact ⟨fun same => absurd (same.2 log) nofun, fun same => absurd (same.2 outputs) nofun⟩

end BuildDigest
