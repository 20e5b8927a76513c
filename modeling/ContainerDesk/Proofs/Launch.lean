import ContainerDesk.Launch
import ContainerDesk.Proofs.Settings.Opening

/-!
# The settings file of the desk

The desk opens its settings once its log file is set up.  The log file is in a folder of the
desk's own folder, so this one is there by then, and a settings file can stand in it.  So the
desk gets its settings, whatever is at their place.
-/

namespace ContainerDesk

theorem LogFile.exists_place_eq_named (folder : Place.Way) (path : Text) (limit archived : Int) :
    ∃ way : Place.Way, way.place = (named folder.place path limit archived).place := by
  rcases (Place.Way.ofPath path).exists_place_eq_within folder with ⟨way, hway⟩
  rw [Place.Way.place_ofPath] at hway
  rcases way.exists_place_eq_direct with ⟨direct, hdirect⟩
  exact ⟨direct, hdirect.trans (congrArg Place.direct hway)⟩

theorem LogBook.standing_of_configure {folder : Place.Way} {path : Text} {limit archived : Int}
    {level : Value} {book after : LogBook}
    (h : configure folder.place path limit archived level book = (.ok (), after)) :
    after.disk.standing folder.place = .folder := by
  unfold configure at h
  split at h
  · exact nomatch (Prod.mk.inj h).1
  · rename_i made hmade
    have hmade := Disk.standing_of_makeFolders hmade
    split at h
    · exact nomatch (Prod.mk.inj h).1
    · dsimp only at h
      split at h
      · exact nomatch (Prod.mk.inj h).1
      · rename_i opened hopened
        rw [← (Prod.mk.inj h).2]
        show opened.standing folder.place = .folder
        unfold LogFile.opened at hopened
        split at hopened
        · rw [← (Prod.mk.inj hopened).2, hmade]
        · rcases LogFile.exists_place_eq_named folder path limit archived with ⟨way, hway⟩
          rw [← hway] at hopened
          exact Disk.standing_write_of_folder hopened hmade

namespace Launch

variable {home : Place.Way}

theorem isPlaced_of_folder {disk : Disk} (h : disk.standing home.place = .folder) :
    (Store.fresh (settingsPlace home.place) disk).IsPlaced := by
  have hname : Text.of "config.json" ≠ [] := by decide
  apply Store.IsPlaced.inFolder
  · show disk.standing (home.place ++ [Text.of "config.json"]).dropLast = .folder
    rw [List.dropLast_concat, h]
  · show Disk.Cause.ofText? (disk.pathOf (home.place ++ [Text.of "config.json"])) = none
    rw [← home.place_enter hname]
    exact Disk.ofText_enter hname (Disk.ofPath_eq_none.mp (Disk.ofPath_of_folder h).1).1 (by decide)

theorem isPlaced_of_configure {book after : LogBook}
    (h : LogBook.configureUsually (LogBook.logFolder home.place) book = (.ok (), after)) :
    (Store.fresh (settingsPlace home.place) after.disk).IsPlaced := by
  have hname : Text.of "logs" ≠ [] := by decide
  have hlogs : after.disk.standing (home.enter _ hname).place = .folder := by
    apply LogBook.standing_of_configure
    rw [home.place_enter hname]
    exact h
  have hhome := Disk.standing_outer_of_folder _ hlogs
  rw [Place.Way.outer_enter] at hhome
  exact isPlaced_of_folder hhome

/-- Once the log file is set up, the desk gets its settings, whatever is at the place of the
settings file, unless it is too deep for the reader. -/
theorem isOk_openSettings (stamp : Text) {launch : Launch} {book : LogBook} {there : Bool}
    (hbook : LogBook.configureUsually (LogBook.logFolder home.place) book = (.ok (), launch.book))
    (hthere : launch.book.disk.occupied (settingsPlace home.place) = .ok there)
    (hdepth : ¬ (Store.fresh (settingsPlace home.place) launch.book.disk).IsTooDeep) :
    (openSettings stamp home.place launch).1.isOk = true := by
  have hname : Text.of "config.json" ≠ [] := by decide
  have hsound := Store.isSound_fresh (home.enter _ hname) launch.book.disk
  rw [home.place_enter hname] at hsound
  rcases Store.exists_opened fun _ => Store.isAboutSettings_of_renew hsound hthere hdepth
    (.inr (isPlaced_of_configure hbook)) with ⟨opened, hopen, _⟩
  unfold openSettings settingsPlace
  rw [hopen]
  rfl

example : (LogBook.configureUsually (LogBook.logFolder [Text.of ".baydesk"])
    (.fresh (Disk.empty (Text.of "/home")) .unset)).1.isOk = true := by
  decide +kernel

end Launch

end ContainerDesk
