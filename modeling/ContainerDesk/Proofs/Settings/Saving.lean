import ContainerDesk.Proofs.Settings.Reload
import ContainerDesk.Proofs.Storage.Folder

/-!
# Saves that fail

Content can be written when its integers keep to the digit limit and its texts have no
surrogates.  A save of such content fails only where the system refuses, with the fault
about the settings file, and leaves the file as it was.  Other content can come into a
store, and saving it over a file fails in another way: a long integer is found out
before the file is opened, a surrogate only after the file was emptied.
-/

namespace ContainerDesk

/-- Can a file hold the value?  Its integers have to keep to the digit limit, and its texts must not
have surrogates. -/
def Value.IsWritable (value : Value) : Prop :=
  Json.Consists Json.IsShort (fun c => c.isSurrogate = false) value

namespace Json

theorem exists_octets_iff {depth : Nat} {value : Value} (hvalue : IsReadable depth value) :
    (∃ t octets, write value = .ok t ∧ Utf8.encode t = .ok octets) ↔ value.IsWritable := by
  have hplain : ∀ c, isPlain c = true → c.isSurrogate = false := by
    intro c hc
    simp only [isPlain, Bool.or_eq_true, Bool.and_eq_true, decide_eq_true_eq] at hc
    simp only [CodePoint.isSurrogate, Bool.and_eq_false_iff, decide_eq_false_iff_not]
    omega
  have hwritten : (∃ t octets, write value = .ok t ∧ Utf8.encode t = .ok octets) ↔
      IsWrittenIn (fun c => c.isSurrogate = false) 0 value := by
    constructor
    · rintro ⟨t, octets, hwrite, hencode⟩
      exact ⟨t, hwrite, (Utf8.encode_eq_ok.mp hencode).1⟩
    · rintro ⟨t, hwrite, ht⟩
      exact ⟨t, _, hwrite, Utf8.encode_eq_ok.mpr ⟨ht, rfl⟩⟩
  rw [hwritten, isWrittenIn_iff hplain hvalue]
  constructor
  · intro h
    apply h.mono
    intro c hc
    by_cases hlow : 32 ≤ c.val
    · exact hc hlow
    · simp only [CodePoint.isSurrogate, Bool.and_eq_false_iff, decide_eq_false_iff_not]
      omega
  · exact fun h => h.mono fun c hc _ => hc

theorem exists_octets_of_isSome {value : Value}
    (h : ((write value).toOption.bind fun t => (Utf8.encode t).toOption).isSome = true) :
    ∃ t octets, write value = .ok t ∧ Utf8.encode t = .ok octets := by
  cases hwrite : write value with
  | error fault =>
      rw [hwrite] at h
      cases h
  | ok t =>
      rw [hwrite] at h
      replace h : (Utf8.encode t).toOption.isSome = true := h
      cases hencode : Utf8.encode t with
      | error fault =>
          rw [hencode] at h
          cases h
      | ok octets => exact ⟨t, octets, rfl, hencode⟩

/-!
# Why content is not written
-/

theorem writeItems_eq_error {indent : Nat} {items : List Value} {fault : Fault}
    (ih : ∀ item ∈ items, ∀ fault, writeAt indent item = .error fault → fault = .tooLongToWrite)
    (h : writeItems indent items = .error fault) : fault = .tooLongToWrite := by
  induction items with
  | nil => cases h
  | cons item rest ihrest =>
      rw [writeItems] at h
      split at h
      · rename_i hitem
        cases h
        exact ih item List.mem_cons_self _ hitem
      · split at h
        · rename_i hrest
          cases h
          exact ihrest (fun other hother => ih other (List.mem_cons_of_mem _ hother)) hrest
        · cases h

theorem writeEntries_eq_error {indent : Nat} {entries : List (Text × Value)} {fault : Fault}
    (ih : ∀ entry ∈ entries, ∀ fault, writeAt indent entry.2 = .error fault →
      fault = .tooLongToWrite)
    (h : writeEntries indent entries = .error fault) : fault = .tooLongToWrite := by
  induction entries with
  | nil => cases h
  | cons entry rest ihrest =>
      rw [writeEntries] at h
      split at h
      · rename_i hentry
        cases h
        exact ih entry List.mem_cons_self _ hentry
      · split at h
        · rename_i hrest
          cases h
          exact ihrest (fun other hother => ih other (List.mem_cons_of_mem _ hother)) hrest
        · cases h

theorem writeAt_eq_error {depth : Nat} {value : Value} (hvalue : IsReadable depth value) :
    ∀ indent fault, writeAt indent value = .error fault → fault = .tooLongToWrite := by
  induction hvalue with
  | null => exact fun _ _ h => nomatch h
  | bool b => exact fun _ _ h => nomatch h
  | float x => exact fun _ _ h => nomatch h
  | text t => exact fun _ _ h => nomatch h
  | int n =>
      intro indent fault h
      rw [writeAt] at h
      unfold writeInteger at h
      split at h
      · cases h
      · exact (Except.error.inj h).symm
  | @list depth items _ ih =>
      intro indent fault h
      cases items with
      | nil => cases h
      | cons item items =>
          rw [writeAt] at h
          split at h
          · cases h
          · rename_i hitems
            cases h
            exact writeItems_eq_error (fun item hitem => ih item hitem _) hitems
  | @table depth entries _ _ ih =>
      intro indent fault h
      cases entries with
      | nil => cases h
      | cons entry entries =>
          rw [writeAt] at h
          split at h
          · cases h
          · rename_i hentries
            cases h
            exact writeEntries_eq_error (fun entry hentry => ih entry hentry _) hentries

end Json

namespace Store

variable {store : Store}

/-- Does a save that fails do so with the fault about the settings file, and leave what the file
holds as it was? -/
def FailsSafely (store : Store) : Prop :=
  ∀ fault after, save store = (.error fault, after) →
    (∃ reason, fault = .unusableFile store.path reason) ∧
      after.disk.file? store.place = store.disk.file? store.place

/-!
# Saves over a file
-/

theorem save_of_file (h : store.IsSound) {old : List Octet}
    (hfile : store.disk.standing store.place = .file old) :
    save store =
      match Json.write store.content with
      | .error fault => (.error fault, store)
      | .ok t =>
          match Utf8.encode t with
          | .error fault =>
              (.error (.unencodable fault),
                { store with disk := store.disk.put store.place (.file []) })
          | .ok octets =>
              (.ok (), { store with disk := store.disk.put store.place (.file octets) }) := by
  have hfolder : store.disk.standing store.place.dropLast = .folder := by
    rcases h.place with ⟨way, hplace⟩
    rw [hplace] at hfile ⊢
    exact Disk.standing_dropLast_of_file way hfile
  unfold save
  rw [Disk.makeFolders_of_folder hfolder]
  dsimp only
  rw [Disk.write_of_file hfile]
  cases Json.write store.content with
  | error fault => rfl
  | ok t =>
      dsimp only
      cases Utf8.encode t with
      | error fault => rfl
      | ok octets =>
          dsimp only
          rw [Disk.put_put]

theorem failsSafely_of_file (h : store.IsSound) {old : List Octet}
    (hfile : store.disk.standing store.place = .file old) :
    store.FailsSafely ↔ store.content.IsWritable := by
  rw [← Json.exists_octets_iff h.isReadable_content]
  have hsave := save_of_file h hfile
  constructor
  · intro hsafe
    cases hwrite : Json.write store.content with
    | error fault =>
        rw [hwrite] at hsave
        rcases (hsafe _ _ hsave).1 with ⟨reason, rfl⟩
        cases Json.writeAt_eq_error h.isReadable_content 0 _ hwrite
    | ok t =>
        rw [hwrite] at hsave
        dsimp only at hsave
        cases hencode : Utf8.encode t with
        | error fault =>
            rw [hencode] at hsave
            rcases (hsafe _ _ hsave).1 with ⟨reason, hreason⟩
            cases hreason
        | ok octets => exact ⟨t, octets, rfl, hencode⟩
  · rintro ⟨t, octets, hwrite, hencode⟩ fault after hfails
    rw [hsave, hwrite] at hfails
    dsimp only at hfails
    rw [hencode] at hfails
    cases hfails

/-!
# Saves where there is no file
-/

theorem refused_of_isBySystem {refusal : Disk.Refusal} (h : refusal.isBySystem = true) :
    store.refused refusal = .unusableFile store.path refusal.message :=
  if_pos h

/-- Does the system take the paths of the settings file and of its folder, and are there no more
folders on the way than can be made at once? -/
structure HasPath (store : Store) : Prop where
  file : Disk.Cause.ofText? store.path = none
  folder : Disk.Cause.ofText? (store.disk.pathOf store.place.dropLast) = none
  length : store.place.length ≤ Disk.folderLimit

theorem failsSafely_of_none (h : store.IsSound) (hpath : store.HasPath)
    (hfile : store.disk.file? store.place = none) {t : Text} {octets : List Octet}
    (hwrite : Json.write store.content = .ok t) (hencode : Utf8.encode t = .ok octets) :
    store.FailsSafely := by
  rcases h.place with ⟨way, hplace⟩
  rcases Disk.exists_place_eq_dropLast way with ⟨outer, houter⟩
  rw [← hplace] at houter
  have hlength : outer.place.length ≤ Disk.folderLimit := by
    rw [houter, List.length_dropLast]
    exact Nat.le_trans (Nat.sub_le _ 1) hpath.length
  have hroot := Disk.root_makeFoldersWithin store.disk Disk.folderLimit outer.place
  intro fault after hsave
  rw [hfile]
  unfold save at hsave
  rw [← houter] at hsave
  rcases hmade : store.disk.makeFolders outer.place with ⟨result, made⟩
  rw [← Disk.makeFolders, hmade] at hroot
  rw [hmade] at hsave
  -- The folders are made first and the file is emptied then; either may be refused.
  cases result with
  | error refusal =>
      rcases Disk.makeFoldersWithin_eq_error (houter ▸ hpath.folder) hlength (by decide) hmade
        with ⟨hsystem, hfolder⟩
      cases hsave
      refine ⟨⟨_, refused_of_isBySystem hsystem⟩, ?_⟩
      rw [houter, hplace] at hfolder
      rw [hplace]
      exact Disk.file_eq_none_of_dropLast way hfolder
  | ok done =>
      have hcontent : Json.write { store with disk := made }.content = .ok t := hwrite
      dsimp only at hsave
      rw [hcontent] at hsave
      dsimp only at hsave
      rcases hemptied : made.write store.place [] with ⟨result, emptied⟩
      rw [hemptied] at hsave
      cases result with
      | error refusal =>
          have htext := hpath.file
          rw [path, ← Disk.pathOf_congr hroot] at htext
          rcases Disk.write_eq_error htext hemptied with ⟨hsystem, hnone⟩
          cases hsave
          refine ⟨⟨refusal.message, ?_⟩, hnone⟩
          rw [refused_of_isBySystem hsystem, path, Disk.pathOf_congr hroot]
          rfl
      | ok done =>
          dsimp only at hsave
          rw [hencode] at hsave
          cases hsave

theorem failsSafely_of_isWritable (h : store.IsSound) (hpath : store.HasPath)
    (hwritable : store.content.IsWritable) : store.FailsSafely := by
  cases hfile : store.disk.file? store.place with
  | some old => exact (failsSafely_of_file h (Disk.file_eq_some.mp hfile)).mpr hwritable
  | none =>
      rcases (Json.exists_octets_iff h.isReadable_content).mpr hwritable with
        ⟨t, octets, hwrite, hencode⟩
      exact failsSafely_of_none h hpath hfile hwrite hencode

end Store

namespace Scene

variable {σ : Type}

/-- Over a file that is there, a save fails safely exactly if the content can be written.  Content
that can be written fails safely wherever the settings file may belong. -/
theorem failsSafely_iff {scene : Scene σ} (h : scene.Reachable) :
    (∀ old, scene.store.disk.file? scene.store.place = some old →
      (scene.store.FailsSafely ↔ scene.store.content.IsWritable)) ∧
    (scene.store.HasPath → scene.store.content.IsWritable → scene.store.FailsSafely) := by
  have hsound : scene.store.IsSound := h.isSound
  constructor
  · exact fun old hfile => Store.failsSafely_of_file hsound (Disk.file_eq_some.mp hfile)
  · exact fun hpath hwritable => Store.failsSafely_of_isWritable hsound hpath hwritable

def withFile (t : Text) : Scene Unit :=
  let place := Disk.placeOf (Text.of "config.json")
  let disk := (Disk.empty (Text.of "/home")).put place (.file (Utf8.encodeAll t))
  after (fun _ _ _ => ⟨(), [], [], false⟩) ⟨Store.fresh place disk, ()⟩ [.load]

theorem reachable_withFile (t : Text) : (withFile t).Reachable := by
  apply (Reachable.fresh (Text.of "config.json") _ ()).after
  intro operation hoperation
  rw [List.mem_singleton.mp hoperation]
  trivial

def harmless : Scene Unit :=
  withFile (Text.of "\x7b\"sidebar\": [12, \"left\"]\x7d")

theorem failsSafely_harmless :
    harmless.Reachable ∧ (harmless.store.disk.file? harmless.store.place).isSome = true ∧
      harmless.store.content.IsWritable ∧ harmless.store.FailsSafely := by
  have hreachable : harmless.Reachable := reachable_withFile _
  have hfile : (harmless.store.disk.file? harmless.store.place).isSome = true := by
    decide +kernel
  have hencoded : ((Json.write harmless.store.content).toOption.bind fun t =>
      (Utf8.encode t).toOption).isSome = true := by
    decide +kernel
  have hwritable : harmless.store.content.IsWritable :=
    (Json.exists_octets_iff hreachable.isSound.isReadable_content).mp
      (Json.exists_octets_of_isSome hencoded)
  rcases Option.isSome_iff_exists.mp hfile with ⟨old, hold⟩
  exact ⟨hreachable, hfile, hwritable, ((failsSafely_iff hreachable).1 old hold).mpr hwritable⟩

def halved : Scene Unit :=
  withFile (Text.of "\x7b\"x\": \"\\ud800\"\x7d")

def foundUnencodable : Except Fault Unit → Bool
  | .error (.unencodable _) => true
  | _ => false

/-- The file is loaded, and a save empties it with a fault that is none about the settings. -/
theorem not_failsSafely_halved :
    halved.Reachable ∧ (halved.store.disk.file? halved.store.place).isSome = true ∧
      halved.store.extra.map (·.1) = [Text.of "x"] ∧
      (∃ fault after, Store.save halved.store = (.error (.unencodable fault), after) ∧
        after.disk.file? halved.store.place = some []) ∧
      ¬ halved.store.FailsSafely := by
  have hresult : foundUnencodable (Store.save halved.store).1 = true := by decide +kernel
  have hdisk : (Store.save halved.store).2.disk.file? halved.store.place = some [] := by
    decide +kernel
  rcases hsave : Store.save halved.store with ⟨result, after⟩
  rw [hsave] at hresult hdisk
  cases result with
  | ok done => cases hresult
  | error actual =>
      cases actual with
      | unencodable fault =>
          refine ⟨reachable_withFile _, by decide +kernel, by decide +kernel,
            ⟨fault, after, rfl, hdisk⟩, fun hsafe => ?_⟩
          rcases (hsafe _ _ hsave).1 with ⟨reason, hreason⟩
          cases hreason
      | _ => cases hresult

end Scene

end ContainerDesk
