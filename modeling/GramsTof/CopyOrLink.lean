import GramsTof.ConfigState

/-!
`GRAMS_TOF_Config::copyOrLink` with `symlink` set, as all callers have it, over
a file system of paths. A step the file system permits has the effect the
system call documents; which steps it refuses is an argument, so that every
outcome is a value. The names in a directory are not part of an entry.
-/

namespace GramsTof.CopyOrLink

open ConfigPaths ConfigState

inductive Node where
  | file (content : Text)
  | directory
  | link (target : Text)
  deriving DecidableEq, Repr

abbrev FileSystem := Text → Option Node

def linkedPath (path target : Text) : Text := appendPath (parentPath path) target

/-- What a path leads to. `tooManyLinks` is `ELOOP`. -/
inductive Status where
  | missing
  | found (node : Node)
  | tooManyLinks
  deriving DecidableEq, Repr

/-- `fs::status` follows links. -/
def statusWithin (fs : FileSystem) : Nat → Text → Status
  | 0, _ => .tooManyLinks
  | links + 1, path =>
      match fs path with
      | none => .missing
      | some (.link target) => statusWithin fs links (linkedPath path target)
      | some node => .found node

/-- The kernel follows 40 links. -/
def status (fs : FileSystem) (path : Text) : Status := statusWithin fs 41 path

inductive FsError where
  | sourceMissing
  | tooManyLinks
  | fileExists
  | refused
  deriving DecidableEq, Repr

/-- The steps the file system refuses, for want of permission, of space or for
any other reason. -/
structure Refusals where
  statSource : Bool
  statDestination : Bool
  remove : Bool
  create : Bool
  deriving DecidableEq, Repr

def noRefusals : Refusals := ⟨false, false, false, false⟩

def exists_ (fs : FileSystem) (refused : Bool) (path : Text) : Except FsError Bool :=
  if refused then .error .refused
  else match status fs path with
    | .missing => .ok false
    | .found _ => .ok true
    | .tooManyLinks => .error .tooManyLinks

def set (fs : FileSystem) (path : Text) (node : Option Node) : FileSystem :=
  fun other => if other = path then node else fs other

/-- `fs::remove` takes a link itself away, not what it leads to. -/
def remove (fs : FileSystem) (refused : Bool) (path : Text) : Except FsError Unit × FileSystem :=
  if refused then (.error .refused, fs) else (.ok (), set fs path none)

/-- `fs::create_symlink` does not replace an entry. -/
def createSymlink (fs : FileSystem) (refused : Bool) (target path : Text) :
    Except FsError Unit × FileSystem :=
  if refused then (.error .refused, fs)
  else if (fs path).isSome then (.error .fileExists, fs)
  else (.ok (), set fs path (some (.link target)))

def copyOrLink (fs : FileSystem) (refused : Refusals) (src dst : Text) :
    Except FsError Unit × FileSystem :=
  match exists_ fs refused.statSource src with
  | .error fault => (.error fault, fs)
  | .ok false => (.error .sourceMissing, fs)
  | .ok true =>
      match exists_ fs refused.statDestination dst with
      | .error fault => (.error fault, fs)
      | .ok false => createSymlink fs refused.create src dst
      | .ok true =>
          match remove fs refused.remove dst with
          | (.error fault, fs) => (.error fault, fs)
          | (.ok (), fs) => createSymlink fs refused.create src dst

@[simp] theorem set_here (fs : FileSystem) (path : Text) (node : Option Node) :
    set fs path node path = node := if_pos rfl

theorem set_set (fs : FileSystem) (path : Text) (first second : Option Node) :
    set (set fs path first) path second = set fs path second := by
  funext other
  unfold set
  split_ifs <;> rfl

/-- Something is behind the path, and its status may be asked for. -/
def Seen (fs : FileSystem) (refused : Bool) (path : Text) : Prop :=
  refused = false ∧ ∃ node, status fs path = .found node

/-- Both statuses are known and the destination is removed first. -/
structure Replaces (fs : FileSystem) (refused : Refusals) (src dst : Text) : Prop where
  source : Seen fs refused.statSource src
  destination : Seen fs refused.statDestination dst
  remove : refused.remove = false

/-- Both statuses are known and nothing stands at the destination. -/
structure Adds (fs : FileSystem) (refused : Refusals) (src dst : Text) : Prop where
  source : Seen fs refused.statSource src
  status : refused.statDestination = false
  absent : fs dst = none

theorem exists_true_iff (fs : FileSystem) (refused : Bool) (path : Text) :
    exists_ fs refused path = .ok true ↔ Seen fs refused path := by
  unfold exists_ Seen
  cases refused with
  | true => simp
  | false => cases status fs path <;> simp

theorem exists_false_iff (fs : FileSystem) (refused : Bool) (path : Text) :
    exists_ fs refused path = .ok false ↔ refused = false ∧ status fs path = .missing := by
  unfold exists_
  cases refused with
  | true => simp
  | false => cases status fs path <;> simp

theorem absent_missing (fs : FileSystem) (path : Text) (absent : fs path = none) :
    status fs path = .missing := by
  rw [status, statusWithin, absent]

theorem link_made (fs : FileSystem) (refused : Refusals) (src dst : Text)
    (ready : Replaces fs refused src dst ∨ Adds fs refused src dst)
    (permitted : refused.create = false) :
    copyOrLink fs refused src dst = (.ok (), set fs dst (some (.link src))) := by
  unfold copyOrLink
  rcases ready with ⟨source, destination, removal⟩ | ⟨source, known, absent⟩
  · rw [(exists_true_iff _ _ _).mpr source, (exists_true_iff _ _ _).mpr destination]
    simp [remove, removal, createSymlink, permitted, set_set]
  · rw [(exists_true_iff _ _ _).mpr source,
      (exists_false_iff _ _ _).mpr ⟨known, absent_missing fs dst absent⟩]
    simp [createSymlink, permitted, absent]

/-- The destination was removed, and the link refused. -/
theorem link_lost (fs : FileSystem) (refused : Refusals) (src dst : Text)
    (replaces : Replaces fs refused src dst) (denied : refused.create = true) :
    copyOrLink fs refused src dst = (.error .refused, set fs dst none) := by
  unfold copyOrLink
  rw [(exists_true_iff _ _ _).mpr replaces.source, (exists_true_iff _ _ _).mpr replaces.destination]
  simp [remove, replaces.remove, createSymlink, denied]

theorem link_untouched (fs : FileSystem) (refused : Refusals) (src dst : Text)
    (notReplaced : ¬ Replaces fs refused src dst)
    (notAdded : ¬ Adds fs refused src dst ∨ refused.create = true) :
    ∃ fault, copyOrLink fs refused src dst = (.error fault, fs) := by
  unfold copyOrLink
  cases source : exists_ fs refused.statSource src with
  | error fault => exact ⟨fault, rfl⟩
  | ok sourceThere =>
  cases sourceThere with
  | false => exact ⟨_, rfl⟩
  | true =>
  have seen := (exists_true_iff _ _ _).mp source
  cases destination : exists_ fs refused.statDestination dst with
  | error fault => exact ⟨fault, rfl⟩
  | ok destinationThere =>
  cases destinationThere with
  | true =>
      have there := (exists_true_iff _ _ _).mp destination
      have denied : refused.remove = true := by
        by_contra permitted
        exact notReplaced ⟨seen, there, by simpa using permitted⟩
      exact ⟨_, by simp [remove, denied]; rfl⟩
  | false =>
      -- an entry that leads nowhere is still in the way
      have known := (exists_false_iff _ _ _).mp destination
      by_cases denied : refused.create = true
      · exact ⟨_, by simp [createSymlink, denied]; rfl⟩
      · have stands : (fs dst).isSome = true := by
          rw [← Option.ne_none_iff_isSome]
          intro absent
          rcases notAdded with notAdded | refusal
          · exact notAdded ⟨seen, known.1, absent⟩
          · exact denied refusal
        exact ⟨_, by simp [createSymlink, denied, stands]; rfl⟩

inductive Destination (fs : FileSystem) (dst : Text) : Prop where
  | absent (none : fs dst = none)
  | file (content : Text) (regular : fs dst = some (.file content))
  | linked (target : Text) (link : fs dst = some (.link target)) (node : Node)
      (leads : status fs dst = .found node)
  | dangling (target : Text) (link : fs dst = some (.link target))
      (nowhere : status fs dst = .missing)

/-- The link is at the destination, or the call has thrown and changed
nothing; and without a refusal it is the former. -/
def Atomic (fs : FileSystem) (refused : Refusals) (src dst : Text) : Prop :=
  (copyOrLink fs refused src dst = (.ok (), set fs dst (some (.link src))) ∨
    ∃ fault, copyOrLink fs refused src dst = (.error fault, fs)) ∧
  (refused = noRefusals → (copyOrLink fs refused src dst).1 = .ok ())

def Dangling (fs : FileSystem) (dst : Text) : Prop :=
  (∃ target, fs dst = some (.link target)) ∧ status fs dst = .missing

theorem found_there (fs : FileSystem) (path : Text) (node : Node)
    (leads : status fs path = .found node) : fs path ≠ none := by
  intro absent
  rw [absent_missing fs path absent] at leads
  cases leads

theorem file_found (fs : FileSystem) (path content : Text)
    (regular : fs path = some (.file content)) : status fs path = .found (.file content) := by
  rw [status, statusWithin, regular]

theorem lost_not_atomic (fs : FileSystem) (refused : Refusals) (src dst : Text)
    (replaces : Replaces fs refused src dst) (denied : refused.create = true) :
    ¬ Atomic fs refused src dst := by
  rintro ⟨outcome, _⟩
  rw [link_lost fs refused src dst replaces denied] at outcome
  rcases outcome with made | ⟨fault, kept⟩
  · cases made
  · obtain ⟨_, node, leads⟩ := replaces.destination
    have gone := congrFun (congrArg Prod.snd kept) dst
    simp only [set_here] at gone
    exact found_there fs dst node leads gone.symm

theorem dangling_untouched (fs : FileSystem) (refused : Refusals) (src dst : Text)
    (dangling : Dangling fs dst) : ∃ fault, copyOrLink fs refused src dst = (.error fault, fs) := by
  obtain ⟨⟨target, link⟩, nowhere⟩ := dangling
  apply link_untouched
  · intro replaces
    obtain ⟨_, node, leads⟩ := replaces.destination
    rw [nowhere] at leads
    cases leads
  · left
    intro adds
    rw [adds.absent] at link
    cases link

/-- `copyOrLink` replaces a link atomically exactly if not the removal is
permitted and the creation refused, and if the destination is no dangling link
where everything is permitted. -/
theorem copy_or_link_atomic_iff (fs : FileSystem) (refused : Refusals) (src dst : Text)
    (source : ∃ node, status fs src = .found node) (destination : Destination fs dst) :
    Atomic fs refused src dst ↔
      ¬ (Replaces fs refused src dst ∧ refused.create = true) ∧
      ¬ (refused = noRefusals ∧ Dangling fs dst) := by
  constructor
  · intro atomic
    constructor
    · rintro ⟨replaces, denied⟩
      exact lost_not_atomic fs refused src dst replaces denied atomic
    · rintro ⟨permitted, dangling⟩
      obtain ⟨fault, thrown⟩ := dangling_untouched fs refused src dst dangling
      have returned := atomic.2 permitted
      rw [thrown] at returned
      cases returned
  · rintro ⟨notLost, notDangling⟩
    constructor
    · -- the call removes and links, only links, or touches nothing
      by_cases replaces : Replaces fs refused src dst
      · have permitted : refused.create = false := by
          by_contra denied
          exact notLost ⟨replaces, by simpa using denied⟩
        exact Or.inl (link_made fs refused src dst (Or.inl replaces) permitted)
      · by_cases adds : Adds fs refused src dst ∧ refused.create = false
        · exact Or.inl (link_made fs refused src dst (Or.inr adds.1) adds.2)
        · right
          apply link_untouched fs refused src dst replaces
          rcases not_and_or.mp adds with notAdded | denied
          · exact Or.inl notAdded
          · exact Or.inr (by simpa using denied)
    · rintro rfl
      have made := fun ready => congrArg Prod.fst (link_made fs noRefusals src dst ready rfl)
      -- one case for each kind of destination
      cases destination with
      | absent none => exact made (Or.inr ⟨⟨rfl, source⟩, rfl, none⟩)
      | file content regular =>
          exact made (Or.inl ⟨⟨rfl, source⟩, ⟨rfl, _, file_found fs dst content regular⟩, rfl⟩)
      | linked target link node leads =>
          exact made (Or.inl ⟨⟨rfl, source⟩, ⟨rfl, node, leads⟩, rfl⟩)
      | dangling target link nowhere => exact absurd ⟨rfl, ⟨target, link⟩, nowhere⟩ notDangling

/-- The new table and a link to the one before it. -/
def linkedTables : FileSystem := fun path =>
  if path = "/disc/b.tsv".toList then some (.file [])
  else if path = "/disc/a.tsv".toList then some (.file [])
  else if path = "/table.tsv".toList then some (.link "/disc/a.tsv".toList)
  else none

theorem copy_or_link_atomic_iff_relinks :
    Atomic linkedTables noRefusals "/disc/b.tsv".toList "/table.tsv".toList ↔
      ¬ (Replaces linkedTables noRefusals "/disc/b.tsv".toList "/table.tsv".toList ∧
        noRefusals.create = true) ∧
      ¬ (noRefusals = noRefusals ∧ Dangling linkedTables "/table.tsv".toList) :=
  copy_or_link_atomic_iff linkedTables noRefusals "/disc/b.tsv".toList "/table.tsv".toList
    ⟨.file [], by decide⟩ (.linked "/disc/a.tsv".toList (by decide) (.file []) (by decide))

/-- The table a link leads to was deleted. -/
def danglingTable : FileSystem := set linkedTables "/disc/a.tsv".toList none

/-- With the creation refused the link is lost, and a dangling link is in the
way although nothing is refused. -/
theorem copy_or_link_not_atomic :
    ¬ Atomic linkedTables { noRefusals with create := true } "/disc/b.tsv".toList
      "/table.tsv".toList ∧
    ¬ Atomic danglingTable noRefusals "/disc/b.tsv".toList "/table.tsv".toList := by
  constructor
  · apply lost_not_atomic
    · exact ⟨⟨rfl, .file [], by decide⟩, ⟨rfl, .file [], by decide⟩, rfl⟩
    · rfl
  · intro atomic
    obtain ⟨fault, thrown⟩ := dangling_untouched danglingTable noRefusals "/disc/b.tsv".toList
      "/table.tsv".toList ⟨⟨"/disc/a.tsv".toList, by decide⟩, by decide⟩
    have returned := atomic.2 rfl
    rw [thrown] at returned
    cases returned

end GramsTof.CopyOrLink
