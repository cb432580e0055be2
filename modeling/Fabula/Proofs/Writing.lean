import Fabula.Proofs.Folder
import Fabula.Proofs.Table
import Mathlib.Data.List.Infix

/-!
Writing a file: what is read at a path is the same as before, unless the file is what the path leads
to, or is the first thing that was missing on the way; then it hangs on what is written.
-/

set_option autoImplicit false

namespace Fabula

namespace Folder

section

variable {f : Folder} {way : List String}

theorem isFolder_iff : f.isFolder way = true ↔
    (∀ name ∈ way, name = "..") ∨ way ∈ around ∨ (∃ folder ∈ f.folders, way <+: folder) ∨
      ∃ other ∈ f.files.keys, way <+: other ∧ way ≠ other := by
  simp [isFolder, Table.keys, or_assoc]

theorem around_inits : ∀ inner ∈ around, ∀ way ∈ inner.inits, way = [] ∨ way ∈ around := by
  decide +kernel

theorem isFolder_within {inner : List String} (h : f.isFolder inner = true)
    (hp : way <+: inner) : f.isFolder way = true := by
  rw [isFolder_iff] at h ⊢
  rcases h with hup | haround | ⟨folder, hfolder, hin⟩ | ⟨other, hfile, hin, hne⟩
  · exact .inl fun name hname => hup name (hp.subset hname)
  · rcases around_inits inner haround way ((List.mem_inits way inner).mpr hp) with rfl | hway
    · exact .inl (by simp)
    · exact .inr (.inl hway)
  · exact .inr (.inr (.inl ⟨folder, hfolder, hp.trans hin⟩))
  · refine .inr (.inr (.inr ⟨other, hfile, hp.trans hin, ?_⟩))
    rintro rfl
    exact hne (hin.eq_of_length_le hp.length_le)

/-- A file to be written is in a folder, and no folder itself. -/
structure Writable (f : Folder) (way : List String) : Prop where
  notFolder : f.isFolder way = false
  within : ∃ here name, way = here ++ [name] ∧ f.isFolder here = true

theorem file?_write (f : Folder) (way : List String) (octets : ByteArray) (other : List String) :
    (f.write way octets).file? other =
      if way = other ∧ way ≠ sink then some octets else f.file? other := by
  unfold write file?
  by_cases hsink : way = sink
  · simp [hsink]
  · by_cases hother : way = other
    · subst hother
      simp [hsink, Table.get?_put_self]
    · simp [hsink, hother, Table.get?_put_ne hother]

/-- Writing a file makes no folder, since it is in one. -/
theorem Writable.isFolder_write (hw : f.Writable way) (octets : ByteArray) (other : List String) :
    (f.write way octets).isFolder other = f.isFolder other := by
  unfold write
  split
  · rfl
  · rw [Bool.eq_iff_iff, isFolder_iff, isFolder_iff, Table.keys_put]
    constructor
    · rintro (hup | haround | hin | ⟨file, hfile, hin, hne⟩)
      · exact .inl hup
      · exact .inr (.inl haround)
      · exact .inr (.inr (.inl hin))
      · by_cases hway : file = way
        · -- What is on the way to the new file is on the way to its folder, or is that folder.
          obtain ⟨here, name, rfl, hhere⟩ := hw.within
          subst hway
          have hbefore : other <+: here := by
            rcases List.prefix_concat_iff.mp hin with heq | hbefore
            · exact absurd heq hne
            · exact hbefore
          exact isFolder_iff.mp (isFolder_within hhere hbefore)
        · refine .inr (.inr (.inr ⟨file, ?_, hin, hne⟩))
          split at hfile
          · exact hfile
          · simpa [hway] using hfile
    · rintro (hup | haround | hin | ⟨file, hfile, hin, hne⟩)
      · exact .inl hup
      · exact .inr (.inl haround)
      · exact .inr (.inr (.inl hin))
      · refine .inr (.inr (.inr ⟨file, ?_, hin, hne⟩))
        split
        · exact hfile
        · exact List.mem_append_left _ hfile

end

def soughtFrom (f : Folder) : Spot → List String → Option (List String)
  | .folder here, name :: names =>
    match f.stepTo (.folder here) name with
    | .ok (.file _) => if names = [] then some (here ++ [name]) else none
    | .ok (.folder next) => f.soughtFrom (.folder next) names
    | .error .absent => some (here ++ [name])
    | .error _ => none
  | _, _ => none

/-- The way to the file at a path, or to the first thing on it that is missing. -/
def sought? (f : Folder) (path : String) : Option (List String) :=
  if '\x00' ∈ path.toList ∨ longestPath < path.utf8ByteSize then none
  else f.soughtFrom (.folder (if path.startsWith "/" then ["/"] else [])) (Path.names path)

section

variable {f : Folder} {way : List String}

theorem Writable.stepTo_write (hw : f.Writable way) (octets : ByteArray) (here : List String)
    (name : String) :
    (f.write way octets).stepTo (.folder here) name = f.stepTo (.folder here) name ∨
      way = here ++ [name] ∧ (f.write way octets).stepTo (.folder here) name = .ok (.file octets) ∧
        (f.stepTo (.folder here) name = .error .absent ∨
          ∃ old, f.stepTo (.folder here) name = .ok (.file old)) := by
  simp only [stepTo, hw.isFolder_write, file?_write]
  split
  · exact .inl rfl
  · split
    · exact .inl rfl
    · split
      · exact .inl rfl
      · by_cases hway : way = here ++ [name] ∧ way ≠ sink
        · refine .inr ⟨hway.1, by rw [if_pos hway], ?_⟩
          rw [← hway.1, hw.notFolder]
          cases f.file? way with
          | none => exact .inl rfl
          | some old => exact .inr ⟨old, rfl⟩
        · rw [if_neg hway]
          exact .inl rfl

theorem Writable.foldlM_write (hw : f.Writable way) (octets : ByteArray) {names : List String}
    {here : List String} (hsought : f.soughtFrom (.folder here) names ≠ some way) :
    names.foldlM (f.write way octets).stepTo (.folder here) =
      names.foldlM f.stepTo (.folder here) := by
  induction names generalizing here with
  | nil => rfl
  | cons name names ih =>
    rw [List.foldlM_cons, List.foldlM_cons]
    rcases hw.stepTo_write octets here name with hsame | ⟨hway, hnew, hold⟩
    · rw [hsame]
      cases hstep : f.stepTo (.folder here) name with
      | error d => rfl
      | ok spot =>
        cases spot with
        | file old => cases names <;> rfl
        | folder next =>
          simp only [soughtFrom, hstep] at hsought
          exact ih hsought
    · rcases hold with hold | ⟨old, hold⟩
      · simp [soughtFrom, hold, hway] at hsought
      · -- A file was there, and more names follow: they cannot go through the new one either.
        cases names with
        | nil => simp [soughtFrom, hold, hway] at hsought
        | cons => rw [hnew, hold]; rfl

/-- What is read at a path is the same after something else was written. -/
theorem Writable.read_write (hw : f.Writable way) (octets : ByteArray) {path : String}
    (hsought : f.sought? path ≠ some way) : (f.write way octets).read path = f.read path := by
  have hfollow : (f.write way octets).follow path (Path.names path) =
      f.follow path (Path.names path) := by
    unfold follow
    split
    · rfl
    · next hnull =>
      split
      · rfl
      · next hshort =>
        rw [sought?, if_neg (not_or.mpr ⟨hnull, hshort⟩)] at hsought
        exact hw.foldlM_write octets hsought
  rw [read, read, hfollow]

theorem stepTo_write_self (hsink : way ≠ sink) {here : List String} {name : String}
    (hway : way = here ++ [name])
    (hold : f.stepTo (.folder here) name = .error .absent ∨
      ∃ old, f.stepTo (.folder here) name = .ok (.file old)) (octets : ByteArray) :
    (f.write way octets).stepTo (.folder here) name = .ok (.file octets) := by
  simp only [stepTo, file?_write] at hold ⊢
  split at hold
  · simp at hold
  · next hdot =>
    rw [if_neg hdot]
    split at hold
    · simp at hold
    · next hdots =>
      rw [if_neg hdots]
      split at hold
      · simp at hold
      · next hlong => rw [if_neg hlong, if_pos ⟨hway, hsink⟩]

theorem Writable.stepTo_folder_write (hw : f.Writable way) (octets : ByteArray)
    {here next : List String} {name : String}
    (hstep : f.stepTo (.folder here) name = .ok (.folder next)) :
    (f.write way octets).stepTo (.folder here) name = .ok (.folder next) := by
  rcases hw.stepTo_write octets here name with hsame | ⟨-, -, hold⟩
  · exact hsame.trans hstep
  · simp [hstep] at hold

theorem Writable.foldlM_sought (hw : f.Writable way) (hsink : way ≠ sink) {names : List String}
    {here : List String} (hsought : f.soughtFrom (.folder here) names = some way) :
    (∃ old, names.foldlM f.stepTo (.folder here) = .ok (.file old) ∧
      ∀ octets, names.foldlM (f.write way octets).stepTo (.folder here) = .ok (.file octets)) ∨
    names.foldlM f.stepTo (.folder here) = .error .absent ∧
      ∀ octets, names.foldlM (f.write way octets).stepTo (.folder here) = .ok (.file octets) ∨
        names.foldlM (f.write way octets).stepTo (.folder here) = .error .notFolder := by
  induction names generalizing here with
  | nil => cases hsought
  | cons name names ih =>
    simp only [List.foldlM_cons]
    cases hstep : f.stepTo (.folder here) name with
    | error d =>
      obtain ⟨rfl, hway⟩ : d = .absent ∧ way = here ++ [name] := by
        cases d <;> simp_all [soughtFrom]
      refine .inr ⟨rfl, fun octets => ?_⟩
      rw [stepTo_write_self hsink hway (.inl hstep)]
      cases names with
      | nil => exact .inl rfl
      | cons => exact .inr rfl
    | ok spot =>
      cases spot with
      | file old =>
        obtain ⟨rfl, hway⟩ : names = [] ∧ way = here ++ [name] := by
          cases names <;> simp_all [soughtFrom]
        refine .inl ⟨old, rfl, fun octets => ?_⟩
        rw [stepTo_write_self hsink hway (.inr ⟨old, hstep⟩)]
        rfl
      | folder next =>
        simp only [soughtFrom, hstep] at hsought
        simp only [hw.stepTo_folder_write _ hstep]
        exact ih hsought

/-- Of what is read at a path, only what was sought there hangs on a file that is written. -/
theorem Writable.read_write_iff (hw : f.Writable way) (hsink : way ≠ sink) {path : String} :
    (∀ octets, (f.write way octets).read path = f.read path) ↔ f.sought? path ≠ some way := by
  refine ⟨fun hsame hsought => ?_, fun hsought octets => hw.read_write octets hsought⟩
  unfold sought? at hsought
  split at hsought
  · cases hsought
  · next hguard =>
    obtain ⟨hnull, hshort⟩ := not_or.mp hguard
    have hfollow : ∀ k : Folder, k.follow path (Path.names path) =
        (Path.names path).foldlM k.stepTo
          (.folder (if path.startsWith "/" then ["/"] else [])) := by
      intro k
      rw [follow, if_neg hnull, if_neg hshort]
    rcases hw.foldlM_sought hsink hsought with ⟨old, hold, hnew⟩ | ⟨habsent, hnew⟩
    · -- Written longer than it was, the file is not read as before.
      have hlonger := hsame (old.push 0)
      rw [read, read, hfollow, hfollow, hold, hnew] at hlonger
      have hsize := congrArg ByteArray.size (Except.ok.inj hlonger)
      simp [ByteArray.size_push] at hsize
    · have hthere := hsame ByteArray.empty
      rw [read, read, hfollow, hfollow, habsent] at hthere
      rcases hnew ByteArray.empty with hfound | hblocked
      · rw [hfound] at hthere
        cases hthere
      · rw [hblocked] at hthere
        cases hthere

end

end Folder

end Fabula
