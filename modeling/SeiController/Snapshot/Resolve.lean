import SeiController.Snapshot.Upload

/-!
# Which archive a restore takes

The restorer learns the archives from their keys alone.  It lists everything under the
prefix of its chain, page by page, and keeps the greatest height it may use.
-/

set_option autoImplicit false

namespace SeiController

open GoInt

def archiveSuffix : List Char := ['.', 't', 'a', 'r', '.', 'g', 'z']

/-- The digits between the last slash and `.tar.gz`: the match of `/(\d+)\.tar\.gz$`. -/
def heightDigits (key : List Char) : Option (List Char) :=
  let stem := key.take (key.length - archiveSuffix.length)
  let digits := stem.rtakeWhile Char.isDigit
  if archiveSuffix.isSuffixOf key ∧ digits ≠ [] ∧ (stem.rdropWhile Char.isDigit).getLast? = some '/'
  then some digits
  else none

/-- 0 when the key is no archive's, or its number is out of range. -/
def parseHeightFromKey (key : String) : Int :=
  match heightDigits key.toList with
  | none => 0
  | some digits => (parseInt (String.ofList digits)).getD 0

/-- One answer of `ListObjectsV2`; an object may come without a key. -/
structure Page where
  contents : List (Option String)
  truncated : Bool

structure Best where
  height : Int
  key : String
deriving DecidableEq

def considerKey (target : Int) (best : Best) : Option String → Best
  | none => best
  | some key =>
    let height := parseHeightFromKey key
    if height ≤ 0 then best
    else if 0 < target ∧ target < height then best
    else if best.height < height then ⟨height, key⟩
    else best

/-- The listing loop: a page that is not truncated is the last. -/
def listBest (target : Int) (best : Best) : List (Except String Page) → Except String Best
  | [] => .ok best
  | .error err :: _ => .error err
  | .ok page :: rest =>
    let best := page.contents.foldl (considerKey target) best
    if page.truncated then listBest target best rest else .ok best

def resolveKeyForHeight (bucket chainID : String) (target : Int)
    (pages : List (Except String Page)) : Except String String :=
  match listBest target ⟨0, ""⟩ pages with
  | .error err => .error err
  | .ok best =>
    let where_ := "s3://" ++ bucket ++ "/" ++ stateSyncKeys chainID
    if best.key = "" then
      if 0 < target then
        .error ("no snapshot found at or below height " ++ formatInt target ++ " in " ++ where_)
      else
        .error ("no snapshots found in " ++ where_)
    else
      .ok best.key

def negativeTarget (target : Int) : String :=
  "snapshot-restore: targetHeight must be >= 0, got " ++ formatInt target

def restoreKey (bucket chainID : String) (target : Int) (pages : List (Except String Page)) :
    Except String String :=
  if target < 0 then
    .error (negativeTarget target)
  else
    resolveKeyForHeight bucket chainID target pages

/-! ## Keys -/

theorem digits_after_slash (front : List Char) {digits : List Char}
    (valid : ∀ c ∈ digits, c.isDigit = true) :
    (front ++ '/' :: digits).rtakeWhile Char.isDigit = digits ∧
      (front ++ '/' :: digits).rdropWhile Char.isDigit = front ++ ['/'] := by
  induction digits using List.reverseRecOn with
  | nil =>
    have slash : ¬ Char.isDigit '/' = true := by decide
    exact ⟨List.rtakeWhile_concat_neg _ _ _ slash, List.rdropWhile_concat_neg _ _ _ slash⟩
  | append_singleton digits last ih =>
    obtain ⟨taken, dropped⟩ := ih fun c member => valid c (List.mem_append_left _ member)
    have digit : last.isDigit = true := valid last (by simp)
    have split : front ++ '/' :: (digits ++ [last]) = (front ++ '/' :: digits) ++ [last] := by simp
    rw [split, List.rtakeWhile_concat_pos _ _ _ digit, List.rdropWhile_concat_pos _ _ _ digit, taken,
      dropped]
    exact ⟨rfl, rfl⟩

theorem heightDigits_archive (front : List Char) {digits : List Char} (nonempty : digits ≠ [])
    (valid : ∀ c ∈ digits, c.isDigit = true) :
    heightDigits (front ++ '/' :: digits ++ archiveSuffix) = some digits := by
  obtain ⟨taken, dropped⟩ := digits_after_slash front valid
  have stem : (front ++ '/' :: digits ++ archiveSuffix).take
      ((front ++ '/' :: digits ++ archiveSuffix).length - archiveSuffix.length)
        = front ++ '/' :: digits := by
    rw [List.length_append, Nat.add_sub_cancel, List.take_left]
  have ends : archiveSuffix.isSuffixOf (front ++ '/' :: digits ++ archiveSuffix) = true :=
    List.isSuffixOf_iff_suffix.mpr (List.suffix_append _ _)
  simp only [heightDigits, stem, taken, dropped, List.getLast?_append, List.getLast?_singleton]
  exact if_pos ⟨ends, nonempty, rfl⟩

theorem parseHeightFromKey_archiveKey (chainID : String) {height : Int} (positive : 0 ≤ height)
    (range : InRange height) : parseHeightFromKey (archiveKey chainID height) = height := by
  have valid : ∀ c ∈ Nat.toDigits 10 height.natAbs, c.isDigit = true :=
    List.all_eq_true.mp (all_isDigit_toDigits _)
  have chars : (archiveKey chainID height).toList
      = (chainID.toList ++ "/state-sync".toList) ++ '/' :: Nat.toDigits 10 height.natAbs
        ++ archiveSuffix := by
    simp only [archiveKey, stateSyncKeys, String.toList_append, toList_formatInt positive]
    simp [archiveSuffix]
  have text : String.ofList (Nat.toDigits 10 height.natAbs) = formatInt height := by
    rw [formatInt, if_neg (by omega)]
  rw [parseHeightFromKey, chars, heightDigits_archive _ Nat.toDigits_ne_nil valid]
  show (parseInt (String.ofList (Nat.toDigits 10 height.natAbs))).getD 0 = height
  rw [text, parseInt_formatInt range, Option.getD_some]

theorem parseHeightFromKey_latestKey (chainID : String) :
    parseHeightFromKey (latestKey chainID) = 0 := by
  have none : heightDigits (latestKey chainID).toList = none := by
    refine if_neg fun archive => ?_
    obtain ⟨front, same⟩ := List.isSuffixOf_iff_suffix.mp archive.1
    have last := congrArg List.getLast? same
    simp [latestKey, archiveSuffix, List.getLast?_append] at last
  rw [parseHeightFromKey, none]

/-! ## The greatest height of a listing -/

/-- A restore to the target may take the key, for this height. -/
structure Usable (target : Int) (key : String) (height : Int) : Prop where
  parsed : parseHeightFromKey key = height
  positive : 0 < height
  below : 0 < target → height ≤ target

structure BestOf (target : Int) (seen : List (Option String)) (best : Best) : Prop where
  found : best = ⟨0, ""⟩ ∨ some best.key ∈ seen ∧ Usable target best.key best.height
  greatest : ∀ key height, some key ∈ seen → Usable target key height → height ≤ best.height

theorem BestOf.empty (target : Int) : BestOf target [] ⟨0, ""⟩ :=
  ⟨.inl rfl, fun _ _ member => by cases member⟩

theorem BestOf.skip {target : Int} {seen : List (Option String)} {best : Best}
    (kept : BestOf target seen best) {object : Option String}
    (useless : ∀ key height, object = some key → Usable target key height → height ≤ best.height) :
    BestOf target (seen ++ [object]) best := by
  refine ⟨kept.found.imp_right fun here => ⟨List.mem_append_left _ here.1, here.2⟩, ?_⟩
  intro key height member usable
  rcases List.mem_append.mp member with earlier | last
  · exact kept.greatest key height earlier usable
  · exact useless key height (List.mem_singleton.mp last).symm usable

theorem BestOf.consider {target : Int} {seen : List (Option String)} {best : Best}
    (kept : BestOf target seen best) (object : Option String) :
    BestOf target (seen ++ [object]) (considerKey target best object) := by
  cases object with
  | none => exact kept.skip fun _ _ same => by cases same
  | some key =>
    unfold considerKey
    dsimp only
    by_cases none : parseHeightFromKey key ≤ 0
    · rw [if_pos none]
      refine kept.skip fun other height same usable => ?_
      cases same
      have := usable.parsed
      have := usable.positive
      omega
    rw [if_neg none]
    by_cases above : 0 < target ∧ target < parseHeightFromKey key
    · rw [if_pos above]
      refine kept.skip fun other height same usable => ?_
      cases same
      have := usable.parsed
      have := usable.below above.1
      omega
    rw [if_neg above]
    by_cases better : best.height < parseHeightFromKey key
    · rw [if_pos better]
      refine ⟨.inr ⟨List.mem_append_right _ (List.mem_singleton.mpr rfl), rfl,
        Int.not_le.mp none, ?_⟩, ?_⟩
      · intro bounded
        show parseHeightFromKey key ≤ target
        omega
      · intro other height member usable
        show height ≤ parseHeightFromKey key
        rcases List.mem_append.mp member with earlier | last
        · have := kept.greatest other height earlier usable
          omega
        · cases List.mem_singleton.mp last
          exact le_of_eq usable.parsed.symm
    · rw [if_neg better]
      refine kept.skip fun other height same usable => ?_
      cases same
      have := usable.parsed
      omega

theorem BestOf.foldl {target : Int} (contents : List (Option String)) :
    ∀ {seen : List (Option String)} {best : Best}, BestOf target seen best →
      BestOf target (seen ++ contents) (contents.foldl (considerKey target) best) := by
  induction contents with
  | nil => intro seen best kept; simpa using kept
  | cons object rest ih =>
    intro seen best kept
    have later := ih (kept.consider object)
    rwa [List.append_assoc] at later

/-- The pages of one listing: every page but the last says that there is more. -/
inductive Listing : List (Except String Page) → List (Option String) → Prop
  | last (contents : List (Option String)) : Listing [.ok ⟨contents, false⟩] contents
  | more (contents : List (Option String)) {pages : List (Except String Page)}
      {rest : List (Option String)} (later : Listing pages rest) :
      Listing (.ok ⟨contents, true⟩ :: pages) (contents ++ rest)

/-- However the listing is cut into pages, the loop keeps the best of all of it. -/
theorem listBest_of_listing {target : Int} {pages : List (Except String Page)}
    {all : List (Option String)} (listing : Listing pages all) :
    ∀ {seen : List (Option String)} {best : Best}, BestOf target seen best →
      ∃ kept, listBest target best pages = .ok kept ∧ BestOf target (seen ++ all) kept := by
  induction listing with
  | last contents =>
    intro seen best kept
    exact ⟨_, rfl, kept.foldl contents⟩
  | more contents later ih =>
    intro seen best kept
    obtain ⟨final, listed, greatest⟩ := ih (kept.foldl contents)
    rw [List.append_assoc] at greatest
    exact ⟨final, by simpa [listBest] using listed, greatest⟩

end SeiController
