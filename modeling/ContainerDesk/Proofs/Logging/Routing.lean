import ContainerDesk.Logging.Routing
import ContainerDesk.Proofs.Action
import ContainerDesk.Proofs.Logging.Source
import ContainerDesk.Proofs.Settings.Section

/-!
# What the last set-up decides

Which targets a message reaches is decided by the routing, but what was decided once for a
source and a level is remembered until the routing is set up anew.  What is remembered
always agrees with the routing, so it makes no difference, but for one thing: a source
with two dots side by side may find other sources known when its messages come.

A set-up by the settings forgets what was remembered and replaces all that it depends on.
-/

namespace ContainerDesk

structure Sending where
  stamp : Text
  source : Text
  level : Int
  message : Text

namespace Sending

def isAbout (sending : Sending) (source : Text) (level : Int) : Bool :=
  sending.source = source && sending.level = level

theorem isAbout_iff {sending : Sending} {source : Text} {level : Int} :
    sending.isAbout source level = true ↔ sending.source = source ∧ sending.level = level := by
  unfold isAbout
  rw [Bool.and_eq_true, decide_eq_true_eq, decide_eq_true_eq]

end Sending

namespace Level

theorem ofName_name (level : Level) : Threshold.ofName level.name = .ok level.number := by
  cases level <;> rfl

theorem exists_name_eq {name : Text}
    (h : name ∈ [Text.of "DEBUG", Text.of "INFO", Text.of "WARNING", Text.of "ERROR"]) :
    ∃ level : Level, name = level.name := by
  simp only [List.mem_cons, List.not_mem_nil, or_false] at h
  rcases h with rfl | rfl | rfl | rfl
  · exact ⟨.debug, rfl⟩
  · exact ⟨.info, rfl⟩
  · exact ⟨.warning, rfl⟩
  · exact ⟨.error, rfl⟩

end Level

namespace Routing

theorem admits_silenced (routing : Routing) (known : List Text) (source : Text) {level : Int}
    (h : level ≤ silence) : routing.silenced.admits known source level = false := by
  have hbelow : ¬ silence < level := Int.not_lt.mpr h
  unfold admits silenced
  rw [decide_eq_false hbelow, Bool.false_and]

/-- From a talkative source only warnings and what is graver pass, whatever the threshold is. -/
theorem admits_toFile (routing : Routing) (file : LogFile) (threshold : Int) (known : List Text)
    (source : Text) {level : Int} (h : 1 ≤ level) :
    (routing.unsilenced.toFile file threshold).admits known source level = true ↔
      threshold ≤ level ∧
        (Source.isTalkative known source = true → Level.warning.number ≤ level) := by
  have hset : max threshold 30 ≠ 0 := by omega
  have hpositive : 0 < level := by omega
  unfold admits thresholdFor toFile unsilenced Level.number
  dsimp only
  rw [decide_eq_true hpositive, Bool.true_and, decide_eq_true_eq, decide_eq_true hset,
    Bool.and_true]
  by_cases htalkative : Source.isTalkative known source = true
  · rw [if_pos htalkative, Int.max_le]
    exact and_congr_right fun _ => (imp_iff_right htalkative).symm
  · rw [if_neg htalkative]
    exact (and_iff_left fun h => absurd h htalkative).symm

end Routing

namespace LogBook

variable {book after : LogBook}

def send (book : LogBook) (sending : Sending) : LogBook :=
  book.emit sending.stamp sending.source sending.level sending.message

def hearing (book : LogBook) (sent : List Sending) : LogBook :=
  sent.foldl send book

/-- What may happen to a log book.  The disk belongs to others as well. -/
inductive Event where
  | configure (folder : Place) (path : Text) (limit archived : Int) (level : Value)
  | configureBy (home : Place) (part : Section)
  | silence (upTo : Int)
  | send (sending : Sending)
  | outside (disk : Disk)

def Event.apply : Event → LogBook → LogBook
  | .configure folder path limit archived level, book =>
      (LogBook.configure folder path limit archived level book).2
  | .configureBy home part, book => (LogBook.configureBy home part book).2
  | .silence upTo, book => book.reroute { book.routing with silencedUpTo := upTo }
  | .send sending, book => book.send sending
  | .outside disk, book => { book with disk }

def through (book : LogBook) (events : List Event) : LogBook :=
  events.foldl (fun book event => event.apply book) book

/-- The targets that a message of a level from a source reaches: what is written of it is written to
them. -/
def reached (book : LogBook) (source : Text) (level : Int) : List LogTarget :=
  if book.verdict source level then book.routing.targets else []

/-!
# Messages
-/

theorem disk_emit (book : LogBook) (stamp source : Text) (level : Int) (message : Text) :
    (book.emit stamp source level message).disk =
      (book.reached source level).foldl (write (Routing.line stamp source level message))
        book.disk := by
  unfold emit reached
  split
  · rfl
  · rfl

theorem routing_send (book : LogBook) (sending : Sending) :
    (book.send sending).routing = book.routing := by
  unfold send emit
  split
  · rfl
  · rfl

theorem verdicts_send (book : LogBook) (sending : Sending) :
    (book.send sending).verdicts =
      ((sending.source, sending.level), book.verdict sending.source sending.level) ::
        book.verdicts := by
  unfold send emit
  split
  · rfl
  · rfl

theorem routing_hearing (book : LogBook) (sent : List Sending) :
    (book.hearing sent).routing = book.routing := by
  induction sent generalizing book with
  | nil => rfl
  | cons sending rest ih => exact (ih (book.send sending)).trans (routing_send book sending)

/-- A verdict is the one that was remembered before, or else what the routing says with the sources
that were known when it was first asked for. -/
theorem verdict_hearing (book : LogBook) (sent : List Sending) (source : Text) (level : Int) :
    (book.hearing sent).verdict source level =
      (book.verdicts.lookup (source, level)).getD
        (book.routing.admits (source ::
          (book.hearing (sent.takeWhile fun sending => !sending.isAbout source level)).known)
          source level) := by
  induction sent generalizing book with
  | nil => rfl
  | cons sending rest ih =>
      show ((book.send sending).hearing rest).verdict source level = _
      rw [ih, verdicts_send, routing_send, List.lookup_cons]
      by_cases habout : sending.isAbout source level = true
      · -- The message is the first of its kind, and its verdict is remembered from here on.
        rcases Sending.isAbout_iff.mp habout with ⟨rfl, rfl⟩
        rw [beq_self_eq_true, List.takeWhile_cons_of_neg (by simp [habout])]
        rfl
      · have hother : ((source, level) == (sending.source, sending.level)) = false := by
          rw [beq_eq_false_iff_ne]
          intro heq
          rcases Prod.mk.inj heq with ⟨hsource, hlevel⟩
          exact habout (Sending.isAbout_iff.mpr ⟨hsource.symm, hlevel.symm⟩)
        rw [hother, List.takeWhile_cons_of_pos (by simp [habout])]
        rfl

def knownAtFirst (book : LogBook) (sent : List Sending) (source : Text) (level : Int) : List Text :=
  source :: (book.hearing (sent.takeWhile fun sending => !sending.isAbout source level)).known

theorem reached_hearing (routing : Routing) (sent : List Sending) (source : Text) (level : Int) :
    ((book.reroute routing).hearing sent).reached source level =
      if routing.admits ((book.reroute routing).knownAtFirst sent source level) source level then
        routing.targets
      else
        [] := by
  unfold reached
  rw [verdict_hearing, routing_hearing]
  rfl

/-!
# Set-ups
-/

theorem configure_eq_ok {folder : Place} {path : Text} {limit archived : Int} {level : Value}
    (h : configure folder path limit archived level book = (.ok (), after)) :
    ∃ disk threshold, Threshold.ofValue level = .ok threshold ∧
      after = { book with disk }.reroute
        (book.routing.toFile (.named folder path limit archived) threshold) := by
  unfold configure at h
  split at h
  · cases h
  · split at h
    · cases h
    · rename_i threshold hthreshold
      dsimp only at h
      split at h
      · cases h
      · cases h
        exact ⟨_, threshold, hthreshold, rfl⟩

theorem configure_of_unknown {folder : Place} {disk : Disk}
    (hfolder : book.disk.makeFolders folder = (.ok (), disk)) {name : Text}
    (hunknown : name.map Threshold.capital ∉ Threshold.names.map (·.1)) (path : Text)
    (limit archived : Int) :
    configure folder path limit archived (.text name) book =
      (.error (.badValue (Text.of "Unknown log level: " ++ name)), { book with disk }) := by
  unfold configure Threshold.ofValue Threshold.ofName
  rw [hfolder]
  dsimp only
  rw [lookup_of_not_mem hunknown]

theorem configureBy_disabled {part : Section}
    (h : part.get (Text.of "enabled") = .ok (.bool false)) (home : Place) :
    configureBy home part book = (.ok (), book.reroute book.routing.silenced) := by
  unfold configureBy
  rw [h]
  rfl

theorem configureBy_enabled {part : Section}
    (h : part.get (Text.of "enabled") = .ok (.bool true)) {level : Value} {size count : Int}
    (hlevel : part.get (Text.of "level") = .ok level)
    (hsize : part.get (Text.of "max_file_size_mb") = .ok (.int size))
    (hcount : part.get (Text.of "max_archived_files") = .ok (.int count)) (home : Place) :
    configureBy home part book =
      configure (logFolder home) usualName (size * limitUnit) count level
        (book.reroute book.routing.unsilenced) := by
  unfold configureBy
  rw [h, hlevel, hsize, hcount]
  rfl

theorem exists_logging {part : Section} (hsound : part.IsSound)
    (hname : part.name = Text.of "logging") :
    ∃ (enabled : Bool) (least : Level) (size count : Int),
      part.get (Text.of "enabled") = .ok (.bool enabled) ∧
      part.get (Text.of "level") = .ok (.text least.name) ∧
      part.get (Text.of "max_file_size_mb") = .ok (.int size) ∧
      part.get (Text.of "max_archived_files") = .ok (.int count) := by
  have hget (key : Text) (field : Field)
      (hfield : Schema.field? (Text.of "logging") key = some field) :
      ∃ value, part.get key = .ok value ∧ field.Accepts value :=
    hsound.get_of_field (hname ▸ hfield)
  rcases hget (Text.of "enabled") _ rfl with ⟨enabled, henabled, haccepts⟩
  rcases hget (Text.of "level") _ rfl with ⟨level, hlevel, hlisted⟩
  rcases hget (Text.of "max_file_size_mb") _ rfl with ⟨size, hsize, hsized⟩
  rcases hget (Text.of "max_archived_files") _ rfl with ⟨count, hcount, hcounted⟩
  rcases Field.accepts_flag.mp haccepts with ⟨enabled, rfl⟩
  rcases Field.accepts_choice.mp hlisted with ⟨name, hname, rfl⟩
  rcases Field.accepts_range.mp hsized with ⟨size, rfl, _⟩
  rcases Field.accepts_range.mp hcounted with ⟨count, rfl, _⟩
  rcases Level.exists_name_eq hname with ⟨least, rfl⟩
  exact ⟨enabled, least, size, count, henabled, hlevel, hsize, hcount⟩

/-!
# What a set-up decides
-/

def AllIf (condition : Prop) (targets reached : List LogTarget) : Prop :=
  (condition → reached = targets) ∧ (¬ condition → reached = [])

/-- Is a message of a level heard from a level on, if its source is talkative or not? -/
def IsHeard (least level : Int) (isTalkative : Prop) : Prop :=
  least ≤ level ∧ (isTalkative → Level.warning.number ≤ level)

/-- Does no message reach any target, whatever was sent before? -/
def IsMuted (book : LogBook) : Prop :=
  ∀ (sent : List Sending) (source : Text) (level : Int), level ≤ Level.critical.number →
    (book.hearing sent).reached source level = []

/-- Does a log book send messages to targets from a level on, whatever was sent before?  Talkative
sources and all below them have to be told from others. -/
structure RoutesTo (book : LogBook) (targets : List LogTarget) (least : Level) : Prop where
  routed : book.routing.targets = targets
  threshold : book.routing.threshold = least.number
  /-- Told by the way up from a source, when a message of its kind comes for the first time. -/
  hierarchy : ∀ (sent : List Sending) (source : Text) (level : Int), 1 ≤ level →
    AllIf (IsHeard least.number level (∃ name ∈ Source.talkative,
        Source.Descends (book.knownAtFirst sent source level) source name))
      targets ((book.hearing sent).reached source level)
  /-- Told by the name alone, whatever sources are known. -/
  names : ∀ (sent : List Sending) (source : Text) (level : Int), 1 ≤ level →
    (∀ name ∈ Source.talkative, ¬ name ++ [Source.dot, Source.dot] <+: source) →
    AllIf (IsHeard least.number level (∃ name ∈ Source.talkative,
        source = name ∨ name ++ [Source.dot] <+: source))
      targets ((book.hearing sent).reached source level)

theorem isMuted_silenced (book : LogBook) : (book.reroute book.routing.silenced).IsMuted := by
  intro sent source level hlevel
  rw [reached_hearing, Routing.admits_silenced _ _ _ hlevel]
  rfl

theorem allIf_reached (book : LogBook) (routing : Routing) (file : LogFile) (least : Level)
    (sent : List Sending) {source : Text} {level : Int} (hlow : 1 ≤ level) {isTalkative : Prop} :
    let after := book.reroute (routing.unsilenced.toFile file least.number)
    (Source.isTalkative (after.knownAtFirst sent source level) source = true ↔ isTalkative) →
      AllIf (IsHeard least.number level isTalkative) [.file file, .console]
        ((after.hearing sent).reached source level) := by
  intro after hiff
  unfold AllIf IsHeard
  rw [reached_hearing, ← hiff, ← Routing.admits_toFile routing file least.number _ source hlow]
  exact ⟨fun hadmits => if_pos hadmits, fun hadmits => if_neg hadmits⟩

theorem routesTo_toFile (book : LogBook) (routing : Routing) (file : LogFile) (least : Level) :
    (book.reroute (routing.unsilenced.toFile file least.number)).RoutesTo [.file file, .console]
      least where
  routed := rfl
  threshold := rfl
  hierarchy sent source _ hlow :=
    allIf_reached book routing file least sent hlow (Source.isTalkative_iff _ source)
  names sent _ _ hlow hdots :=
    allIf_reached book routing file least sent hlow (Source.isTalkative_iff_prefix _ hdots)

/-- A set-up by the settings decides alone, whatever happened to the log book before it.  Where they
switch the log off, no message reaches any target.  Otherwise the targets are one file and the
console, both from this set-up, and a message reaches both or none, by its level and its source.

A set-up with an unknown level leaves the whole routing as it was. -/
theorem configureBy_decides (start : LogBook) (events : List Event) {part : Section}
    (hsound : part.IsSound) (hname : part.name = Text.of "logging") (home : Place) :
    (∀ after, configureBy home part (start.through events) = (.ok (), after) →
      (part.get (Text.of "enabled") = .ok (.bool false) ∧ after.IsMuted) ∨
      (part.get (Text.of "enabled") = .ok (.bool true) ∧
        ∃ (least : Level) (size count : Int),
          part.get (Text.of "level") = .ok (.text least.name) ∧
          part.get (Text.of "max_file_size_mb") = .ok (.int size) ∧
          part.get (Text.of "max_archived_files") = .ok (.int count) ∧
          after.RoutesTo
            [.file (.named (logFolder home) usualName (size * limitUnit) count), .console]
            least)) ∧
    (∀ (folder : Place) (disk : Disk) (name path : Text) (limit archived : Int),
      (start.through events).disk.makeFolders folder = (.ok (), disk) →
      name.map Threshold.capital ∉ Threshold.names.map (·.1) →
      configure folder path limit archived (.text name) (start.through events) =
        (.error (.badValue (Text.of "Unknown log level: " ++ name)),
          { start.through events with disk })) := by
  generalize start.through events = book
  constructor
  · intro after hafter
    rcases exists_logging hsound hname with
      ⟨enabled, least, size, count, henabled, hlevel, hsize, hcount⟩
    cases enabled with
    | false =>
        rw [configureBy_disabled henabled] at hafter
        cases hafter
        exact .inl ⟨henabled, isMuted_silenced book⟩
    | true =>
        rw [configureBy_enabled henabled hlevel hsize hcount] at hafter
        rcases configure_eq_ok hafter with ⟨disk, threshold, hthreshold, rfl⟩
        cases hthreshold.symm.trans least.ofName_name
        exact .inr ⟨henabled, least, size, count, hlevel, hsize, hcount,
          routesTo_toFile { book.reroute book.routing.unsilenced with disk } book.routing _ least⟩
  · intro folder disk name path limit archived hfolder hunknown
    exact configure_of_unknown hfolder hunknown path limit archived

def loggingPart : Section :=
  (Section.fresh (Text.of "logging")
    ((Schema.sections.lookup (Text.of "logging")).getD [])).put
      (Text.of "level") (.text (Text.of "DEBUG"))

def unsetBook : LogBook :=
  .fresh (Disk.empty (Text.of "/home")) .unset

def homePlace : Place :=
  Disk.placeOf (Text.of "desk")

def silencing : List Event :=
  [.configure (logFolder homePlace) usualName usualLimit usualArchived (.text usualLevel),
    .send ⟨[], Text.of "docker.api", 40, Text.of "no answer"⟩, .silence 50]

def usualFile : LogFile :=
  .named (logFolder homePlace) usualName usualLimit usualArchived

theorem isSound_loggingPart : loggingPart.IsSound := by
  apply Section.IsSound.put_of_check
  · exact Section.isSound_fresh (List.mem_cons_of_mem _ List.mem_cons_self)
  · rfl

/-- The silence ends, debug messages are heard, and a talkative source is not heard with an
information.  An unknown level is found out while all is silenced. -/
theorem configureBy_decides_silenced :
    (∃ after, configureBy homePlace loggingPart (unsetBook.through silencing) = (.ok (), after) ∧
      after.reached (Text.of "baydesk.main") 10 = [.file usualFile, .console] ∧
      (after.hearing [⟨[], Text.of "docker.api", 40, []⟩]).reached (Text.of "docker.api") 20 =
        []) ∧
    ∃ disk, (unsetBook.through silencing).disk.makeFolders (logFolder homePlace) = (.ok (), disk) ∧
      configure (logFolder homePlace) usualName 0 0 (.text (Text.of "loud"))
        (unsetBook.through silencing) =
          (.error (.badValue (Text.of "Unknown log level: loud")),
            { unsetBook.through silencing with disk }) := by
  have hset : (configureBy homePlace loggingPart (unsetBook.through silencing)).1.isOk = true := by
    decide +kernel
  have hmade : ((unsetBook.through silencing).disk.makeFolders
      (logFolder homePlace)).1.isOk = true := by
    decide +kernel
  rcases configureBy_decides unsetBook silencing isSound_loggingPart rfl homePlace with
    ⟨hdecides, hunknown⟩
  constructor
  · rcases exists_of_isOk hset with ⟨_, after, hafter⟩
    rcases hdecides after hafter with ⟨henabled, _⟩ |
      ⟨_, least, size, count, hlevel, hsize, hcount, hroutes⟩
    · cases henabled
    · cases hsize
      cases hcount
      have hleast : least = .debug := by
        cases least
        case debug => rfl
        all_goals exact absurd (Value.text.inj (Except.ok.inj hlevel)) (by decide)
      subst hleast
      have hmain := hroutes.names [] (Text.of "baydesk.main") 10 (by decide) (by decide)
      have hdocker := hroutes.names [⟨[], Text.of "docker.api", 40, []⟩]
        (Text.of "docker.api") 20 (by decide) (by decide)
      refine ⟨after, hafter, hmain.1 ⟨by decide, by decide⟩, hdocker.2 ?_⟩
      intro hheard
      exact absurd (hheard.2 (by decide)) (by decide)
  · rcases exists_of_isOk hmade with ⟨_, disk, hdisk⟩
    exact ⟨disk, hdisk, hunknown (logFolder homePlace) disk (Text.of "loud") usualName 0 0 hdisk
      (by decide)⟩

end LogBook

end ContainerDesk
