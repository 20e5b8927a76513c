import ContainerDesk.Proofs.Json.RoundTrip
import ContainerDesk.Proofs.Settings.Run
import ContainerDesk.Proofs.Storage.Disk
import ContainerDesk.Proofs.Text.Utf8

/-!
# Saving and loading again

What a sound store writes to its file reads as what it was written for.  A fresh store
that loads the file has all values and unknown sections, and when it saves in turn, the
disk stays as it is.
-/

namespace ContainerDesk

namespace Store

/-!
# The content of a file
-/

theorem map_tables (store : Store) : store.tables.map (·.1) = store.live.map (·.name) := by
  unfold tables
  rw [List.map_map]
  rfl

theorem IsSound.nodup_keys {store : Store} (h : store.IsSound) :
    (((Schema.versionKey, Value.text Schema.version) :: store.extra ++ store.tables).map
      (·.1)).Nodup := by
  have hnames : store.tables.map (·.1) = Schema.sections.map (·.1) :=
    (map_tables store).trans h.live.names
  rw [List.cons_append, List.map_cons, List.map_append, hnames, List.nodup_cons,
    List.nodup_append]
  refine ⟨?_, h.extra.keys, Schema.nodup_names, ?_⟩
  · intro hmem
    rcases List.mem_append.mp hmem with hextra | hsection
    · rcases List.mem_map.mp hextra with ⟨entry, hentry, hname⟩
      exact (Schema.isUnknown_eq_true.mp (h.extra.unknown entry hentry)).1 hname
    · exact Schema.versionKey_not_mem hsection
  · intro name hextra other hsection heq
    rcases List.mem_map.mp hextra with ⟨entry, hentry, rfl⟩
    apply (Schema.isUnknown_eq_true.mp (h.extra.unknown entry hentry)).2
    rw [heq]
    exact hsection

theorem IsSound.isReadable_content {store : Store} (h : store.IsSound) :
    Json.IsReadable Json.depthLimit store.content := by
  show Json.IsReadable (Json.depthLimit - 1 + 1) store.content
  apply Json.IsReadable.table h.nodup_keys
  intro entry hentry
  rcases List.mem_append.mp hentry with hfront | htable
  · rcases List.mem_cons.mp hfront with rfl | hextra
    · exact .text _
    · exact h.extra.readable entry hextra
  · rcases List.mem_map.mp htable with ⟨part, hpart, rfl⟩
    exact (h.live.part hpart).isReadable 985

theorem IsSound.parse_content {store : Store} (h : store.IsSound) {t : Text}
    {octets : List Octet} (hwrite : Json.write store.content = .ok t)
    (hencode : Utf8.encode t = .ok octets) : parse octets = .ok store.content := by
  have hends : t.unifyLineEnds = t :=
    Text.unifyLineEnds_eq_self
      (Json.carriageReturn_not_mem_writeAt h.isReadable_content 0 t hwrite)
  unfold parse
  rw [Utf8.decode_of_encode hencode]
  dsimp only
  rw [hends, Json.read_of_write h.isReadable_content hwrite]

/-!
# Steps of saving and loading
-/

variable {store after : Store}

theorem save_eq_ok (h : save store = (.ok (), after)) :
    ∃ made t octets, store.disk.makeFolders store.place.dropLast = (.ok (), made) ∧
      Json.write store.content = .ok t ∧ Utf8.encode t = .ok octets ∧
      (made.standing store.place).isOpen = true ∧
      after = { store with disk := made.put store.place (.file octets) } := by
  unfold save at h
  split at h
  · exact nomatch (Prod.mk.inj h).1
  · rename_i made hmade
    dsimp only at h
    split at h
    · exact nomatch (Prod.mk.inj h).1
    · rename_i t hwrite
      split at h
      · exact nomatch (Prod.mk.inj h).1
      · rename_i emptied hemptied
        split at h
        · exact nomatch (Prod.mk.inj h).1
        · rename_i octets hencode
          rcases Disk.write_eq_ok hemptied with ⟨hopen, hput⟩
          refine ⟨made, t, octets, hmade, hwrite, hencode, hopen, ?_⟩
          rw [← (Prod.mk.inj h).2, hput, Disk.put_put]

/-- Saving over a file that holds what would be written leaves the disk as it is. -/
theorem save_again {t : Text} {octets : List Octet}
    (hfolder : store.disk.standing store.place.dropLast = .folder)
    (hfile : store.disk.standing store.place = .file octets)
    (hdisk : store.disk.put store.place (.file octets) = store.disk)
    (hwrite : Json.write store.content = .ok t) (hencode : Utf8.encode t = .ok octets) :
    save store = (.ok (), store) := by
  unfold save
  rw [Disk.makeFolders_of_folder hfolder]
  dsimp only
  rw [hwrite]
  dsimp only
  rw [Disk.write_of_file hfile, hencode]
  dsimp only
  rw [Disk.put_put, hdisk]

/-- Do two stores have the same file, values and unknown sections, and the same disk? -/
structure Agrees (store other : Store) : Prop where
  place : store.place = other.place
  live : store.live = other.live
  extra : store.extra = other.extra
  disk : store.disk = other.disk

theorem readEntries_of_file {octets : List Octet} {entries : List (Text × Value)}
    (hread : store.disk.read store.place = .ok octets)
    (hparse : parse octets = .ok (.table entries)) : store.readEntries = .ok entries := by
  unfold readEntries
  rw [hread]
  dsimp only
  rw [hparse]

theorem load_of_entries (store : Store) {entries : List (Text × Value)} {edition : Edition}
    {extra : List (Text × Value)} {notes : Journal}
    (hthere : store.disk.occupied store.place = .ok true)
    (hentries : store.readEntries = .ok entries)
    (hedition : Edition.ofEntries entries = (.ok (edition, extra), notes)) :
    ∃ loaded, load store = (.ok (), loaded) ∧
      loaded.Agrees { store with live := edition, extra } := by
  unfold load
  rw [hthere]
  dsimp only
  rw [hentries]
  dsimp only
  rw [hedition]
  exact ⟨_, rfl, rfl, rfl, rfl, rfl⟩

theorem load_eq_ok (h : load store = (.ok (), after)) :
    (∃ entries edition extra notes, store.disk.occupied store.place = .ok true ∧
      store.readEntries = .ok entries ∧
      Edition.ofEntries entries = (.ok (edition, extra), notes) ∧
      after.Agrees { store with live := edition, extra }) ∨
    (store.disk.occupied store.place = .ok false ∧
      ∃ message, save (store.note .info .registry message) = (.ok (), after)) := by
  unfold load at h
  split at h
  · exact nomatch (Prod.mk.inj h).1
  · rename_i hthere
    split at h
    · exact nomatch (Prod.mk.inj h).1
    · rename_i entries hentries
      split at h
      · exact nomatch (Prod.mk.inj h).1
      · rename_i edition extra notes hedition
        rw [← (Prod.mk.inj h).2]
        exact .inl ⟨entries, edition, extra, notes, hthere, hentries, hedition, rfl, rfl, rfl, rfl⟩
  · rename_i hfree
    exact .inr ⟨hfree, _, h⟩

/-!
# Saving, then loading
-/

theorem standing_of_save (way : Place.Way) (hway : store.place = way.place)
    (h : save store = (.ok (), after)) :
    ∃ t octets, Json.write store.content = .ok t ∧ Utf8.encode t = .ok octets ∧
      after = { store with disk := after.disk } ∧
      after.disk.standing way.place = .file octets ∧
      after.disk.standing way.place.dropLast = .folder ∧
      after.disk.put way.place (.file octets) = after.disk := by
  rcases save_eq_ok h with ⟨made, t, octets, hmade, hwrite, hencode, hopen, rfl⟩
  rw [hway] at hmade hopen
  have hfile : (made.put way.place (.file octets)).standing way.place = .file octets :=
    Disk.standing_put way hopen (.file octets)
  refine ⟨t, octets, hwrite, hencode, rfl, ?_⟩
  dsimp only
  rw [hway]
  refine ⟨hfile, ?_, Disk.put_put _ _ _ _⟩
  apply Disk.standing_outer way
  · rw [hfile]
    rfl
  · rw [Disk.pathOf_put]
    exact Disk.ofPath_of_makeFolders hmade

theorem IsSound.load_of_save (hsound : store.IsSound) (h : Store.save store = (.ok (), after)) :
    ∃ loaded, Store.load (fresh after.place after.disk) = (.ok (), loaded) ∧
      loaded.Agrees after ∧ Store.save loaded = (.ok (), loaded) := by
  rcases hsound.place with ⟨way, hway⟩
  rcases standing_of_save way hway h with
    ⟨t, octets, hwrite, hencode, hafter, hfile, hfolder, hdisk⟩
  have hplace : after.place = way.place := by
    rw [hafter]
    exact hway
  have hlive : store.live = after.live := by rw [hafter]
  have hextra : store.extra = after.extra := by rw [hafter]
  rw [← hplace] at hfile hfolder hdisk
  have hentries : (fresh after.place after.disk).readEntries =
      .ok ((Schema.versionKey, .text Schema.version) :: store.extra ++ store.tables) :=
    readEntries_of_file (Disk.read_of_file hfile) (hsound.parse_content hwrite hencode)
  have hedition := hsound.live.ofEntries hsound.extra.unknown (.text Schema.version)
  rcases load_of_entries (fresh after.place after.disk) (Disk.occupied_of_file hfile) hentries
    hedition with ⟨loaded, hload, hagrees⟩
  have hsame : loaded.Agrees after :=
    ⟨hagrees.place, hagrees.live.trans hlive, hagrees.extra.trans hextra, hagrees.disk⟩
  have hcontent : loaded.content = store.content := by
    unfold content tables
    rw [hagrees.live, hagrees.extra]
  refine ⟨loaded, hload, hsame, ?_⟩
  rw [← hcontent] at hwrite
  rw [← hsame.place, ← hsame.disk] at hfile hfolder hdisk
  exact save_again hfolder hfile hdisk hwrite hencode

theorem IsSound.exists_load_of_save (h : store.IsSound)
    (hsave : Store.save store = (.ok (), after)) :
    ∃ loaded, Store.load (Store.fresh after.place after.disk) = (.ok (), loaded) ∧
      loaded.IsSound ∧ loaded.live = store.live := by
  rcases h.load_of_save hsave with ⟨loaded, hload, hagrees, _⟩
  refine ⟨loaded, hload, ?_, ?_⟩
  · rcases h.save.place with ⟨way, hway⟩
    rw [hsave] at hway
    have hfresh := (isSound_fresh way after.disk).load
    rw [← hway, hload] at hfresh
    exact hfresh
  · rcases exists_disk_of_save store with ⟨disk, hdisk⟩
    rw [hsave] at hdisk
    rw [hagrees.live, show after = _ from hdisk]

theorem IsSound.load_of_load (hsound : store.IsSound) (h : Store.load store = (.ok (), after)) :
    ∃ loaded, Store.load (fresh after.place after.disk) = (.ok (), loaded) ∧
      loaded.Agrees after := by
  rcases load_eq_ok h with ⟨entries, edition, extra, notes, hthere, hentries, hedition, hagrees⟩ |
    ⟨_, message, hsave⟩
  · rcases load_of_entries (fresh store.place store.disk) hthere hentries hedition with
      ⟨loaded, hload, hloaded⟩
    rw [hagrees.place, hagrees.disk]
    exact ⟨loaded, hload, hloaded.place.trans hagrees.place.symm,
      hloaded.live.trans hagrees.live.symm, hloaded.extra.trans hagrees.extra.symm,
      hloaded.disk.trans hagrees.disk.symm⟩
  · rcases (hsound.note _ _ message).load_of_save hsave with ⟨loaded, hload, hloaded, _⟩
    exact ⟨loaded, hload, hloaded⟩

end Store

namespace Scene

variable {σ : Type}

/-- Whatever callers and those who watch did: after a save or a load that ends well, a fresh store
on the same path loads all values and all unknown sections, and after a save, what it saves in
turn is the file as it is. -/
theorem reload_eq {scene : Scene σ} (h : scene.Reachable) :
    (∀ after, (Store.save scene.store = (.ok (), after) ∨
        Store.load scene.store = (.ok (), after)) →
      ∃ loaded, Store.load (Store.fresh after.place after.disk) = (.ok (), loaded) ∧
        loaded.live = after.live ∧ loaded.extra = after.extra) ∧
    ∀ after, Store.save scene.store = (.ok (), after) →
      ∃ loaded saved, Store.load (Store.fresh after.place after.disk) = (.ok (), loaded) ∧
        Store.save loaded = (.ok (), saved) ∧ saved.disk = after.disk := by
  have hsound := h.isSound
  constructor
  · intro after hafter
    have hload : ∃ loaded, Store.load (Store.fresh after.place after.disk) = (.ok (), loaded) ∧
        loaded.Agrees after := by
      rcases hafter with hsave | hload
      · rcases hsound.load_of_save hsave with ⟨loaded, hload, hagrees, _⟩
        exact ⟨loaded, hload, hagrees⟩
      · exact hsound.load_of_load hload
    rcases hload with ⟨loaded, hload, hagrees⟩
    exact ⟨loaded, hload, hagrees.live, hagrees.extra⟩
  · intro after hsave
    rcases hsound.load_of_save hsave with ⟨loaded, hload, hagrees, hagain⟩
    exact ⟨loaded, loaded, hload, hagain, hagrees.disk⟩

def widened : Scene Unit :=
  after (fun _ _ _ => ⟨(), [], [], false⟩)
    ⟨Store.fresh (Disk.placeOf (Text.of "desk/config.json")) (Disk.empty (Text.of "/home")), ()⟩
    [.set (Text.of "app") (Text.of "window_width") (.int 1000),
      .append (Text.of "ui_state") (Text.of "column_widths") (.int 120)]

theorem reachable_widened : widened.Reachable := by
  apply (Reachable.fresh (Text.of "desk/config.json") (Disk.empty (Text.of "/home")) ()).after
  intro operation hoperation
  rcases List.mem_cons.mp hoperation with rfl | hoperation
  · trivial
  · rw [List.mem_singleton.mp hoperation]
    exact ⟨120, rfl⟩

/-- The widened scene can be saved, and what was saved is loaded and saved again. -/
theorem reload_widened :
    (Store.get widened.store (Text.of "ui_state") (Text.of "column_widths") =
      .ok (.list [.int 120])) ∧
    ∃ after loaded saved, Store.save widened.store = (.ok (), after) ∧
      Store.load (Store.fresh after.place after.disk) = (.ok (), loaded) ∧
      loaded.live = after.live ∧ loaded.extra = after.extra ∧
      Store.save loaded = (.ok (), saved) ∧ saved.disk = after.disk := by
  have hok : (Store.save widened.store).1.isOk = true := by decide +kernel
  refine ⟨rfl, ?_⟩
  rcases hsave : Store.save widened.store with ⟨result, after⟩
  rw [hsave] at hok
  cases result with
  | error fault => cases hok
  | ok done =>
      rcases (reload_eq reachable_widened).1 after (.inl hsave) with ⟨loaded, hload, hlive, hextra⟩
      rcases (reload_eq reachable_widened).2 after hsave with
        ⟨again, saved, hagain, hsaved, hdisk⟩
      rw [hload] at hagain
      cases hagain
      exact ⟨after, loaded, saved, rfl, hload, hlive, hextra, hsaved, hdisk⟩

end Scene

end ContainerDesk
