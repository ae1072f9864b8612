import Mathlib.Order.Monotone.Defs
import Mathlib.Algebra.Order.Group.Unbundled.Int
import Mathlib.Data.Int.ConditionallyCompleteOrder
import Mathlib.Tactic.Positivity

/-!
# Detecting the quality of a photo

`OnImageJPEGDetectQuality` saves test files of the displayed image, in a bisection over
the qualities 0 to 100 that begins at 80, and compares their lengths with that of the
photo.  It stops when the quality changes by at most one, without a test of the last
quality it came to.  Whatever the lengths are it needs at most six files; but it never
comes to a quality of 99 or 100.
-/

namespace RPhoto.Editing

/-- The variables of the loop. -/
structure QualitySearch where
  quality : Int
  prevQual : Int
  minQual : Int
  maxQual : Int
deriving DecidableEq

namespace QualitySearch

/-- The condition of the loop. -/
def Continues (search : QualitySearch) : Prop := |search.quality - search.prevQual| > 1

instance (search : QualitySearch) : Decidable search.Continues :=
  inferInstanceAs (Decidable (_ > _))

/-- The body of the loop, once the test file has its length. -/
def next (sizeTarget sizeCur : Int) (search : QualitySearch) : QualitySearch :=
  let search := { search with prevQual := search.quality }
  let search :=
    if sizeCur > sizeTarget then
      { search with
        maxQual := search.quality
        quality := (search.quality + search.minQual).tdiv 2 }
    else search
  if sizeCur < sizeTarget then
    { search with
      minQual := search.quality
      quality := (search.quality + search.maxQual).tdiv 2 }
  else search

/--
The loop, which may save at most `files` test files; test number `tested` of a quality gives
a file of that length.
-/
def loop (lengths : Nat → Int → Int) (sizeTarget : Int) :
    Nat → Nat → QualitySearch → Option QualitySearch
  | 0, _, search => if search.Continues then none else some search
  | files + 1, tested, search =>
      if search.Continues then
        loop lengths sizeTarget files (tested + 1)
          (search.next sizeTarget (lengths tested search.quality))
      else some search

def start : QualitySearch := ⟨80, 0, 0, 100⟩

end QualitySearch

/--
`OnImageJPEGDetectQuality`: the quality it writes to the configuration, if that takes no more
than `files` test files.
-/
def detectQuality (files : Nat) (lengths : Nat → Int → Int) (sizeTarget : Int) : Option Int :=
  (QualitySearch.loop lengths sizeTarget files 0 .start).map QualitySearch.quality

namespace QualitySearch

variable {search : QualitySearch} {sizeTarget sizeCur : Int}

theorem next_long (long : sizeTarget < sizeCur) :
    search.next sizeTarget sizeCur =
      ⟨(search.quality + search.minQual).tdiv 2, search.quality, search.minQual,
        search.quality⟩ := by
  unfold next
  dsimp only
  rw [if_pos long, if_neg (Int.not_lt.mpr (Int.le_of_lt long))]

theorem next_short (short : sizeCur < sizeTarget) :
    search.next sizeTarget sizeCur =
      ⟨(search.quality + search.maxQual).tdiv 2, search.quality, search.quality,
        search.maxQual⟩ := by
  unfold next
  dsimp only
  rw [if_neg (Int.not_lt.mpr (Int.le_of_lt short)), if_pos short]

theorem next_equal :
    search.next sizeTarget sizeTarget = { search with prevQual := search.quality } := by
  unfold next
  dsimp only
  rw [if_neg (Int.lt_irrefl _), if_neg (Int.lt_irrefl _)]

/-- How wide the interval is when `left` tests are left; the last one may halve it unevenly. -/
def Width (search : QualitySearch) : Nat → Prop
  | 0 => search.maxQual - search.minQual = 2 ∧ search.prevQual = search.maxQual ∨
      search.maxQual - search.minQual = 3 ∧ search.prevQual = search.minQual
  | left + 1 => search.maxQual - search.minQual = 5 * 2 ^ left

/--
What is known of the search when it has made its first test and `left` are left: it stands
in the middle of an interval, one end of which it came from.
-/
structure Halved (left : Nat) (search : QualitySearch) : Prop where
  middle : search.quality = (search.minQual + search.maxQual) / 2
  from_end : search.prevQual = search.minQual ∨ search.prevQual = search.maxQual
  tested : 1 ≤ search.prevQual ∧ search.prevQual ≤ 98
  lowest : 0 ≤ search.minQual
  highest : search.maxQual ≤ 100
  width : search.Width left

/-- Nothing is left to test. -/
structure Ended (search : QualitySearch) : Prop where
  still : ¬search.Continues
  low : 1 ≤ search.quality
  high : search.quality ≤ 98

/-- An interval with tests left is wide. -/
theorem Width.wide {left : Nat} (width : search.Width (left + 1)) :
    5 ≤ search.maxQual - search.minQual := by
  have power : (0 : Int) < 2 ^ left := by positivity
  have exactly : search.maxQual - search.minQual = 5 * 2 ^ left := width
  omega

/-- A test halves a wide interval evenly; the last one, of width five, leaves two or three. -/
theorem Width.half {left : Nat} {below above : QualitySearch} (width : search.Width (left + 1))
    (middle : search.quality = (search.minQual + search.maxQual) / 2)
    (down : below.maxQual = search.quality ∧ below.minQual = search.minQual ∧
      below.prevQual = search.quality)
    (up : above.maxQual = search.maxQual ∧ above.minQual = search.quality ∧
      above.prevQual = search.quality) : below.Width left ∧ above.Width left := by
  obtain ⟨belowMax, belowMin, belowPrev⟩ := down
  obtain ⟨aboveMax, aboveMin, abovePrev⟩ := up
  have exactly : search.maxQual - search.minQual = 5 * 2 ^ left := width
  cases left with
  | zero =>
      unfold Width
      rw [belowMax, belowMin, belowPrev, aboveMax, aboveMin, abovePrev]
      omega
  | succ left =>
      unfold Width
      rw [belowMax, belowMin, aboveMax, aboveMin]
      rw [pow_succ] at exactly
      omega

theorem Halved.quality_range {left : Nat} (halved : Halved left search) :
    1 ≤ search.quality ∧ search.quality ≤ 98 := by
  obtain ⟨middle, from_end, tested, lowest, highest, width⟩ := halved
  rw [middle]
  cases left with
  | zero =>
      unfold Width at width
      omega
  | succ left =>
      have wide := width.wide
      omega

/-- With no test left there is no quality to go to. -/
theorem Halved.ended (halved : Halved 0 search) : Ended search := by
  obtain ⟨low, high⟩ := halved.quality_range
  refine ⟨?_, low, high⟩
  obtain ⟨middle, from_end, tested, lowest, highest, width⟩ := halved
  unfold Width at width
  unfold Continues
  rw [middle, gt_iff_lt, not_lt, abs_le]
  omega

theorem Halved.continues {left : Nat} (halved : Halved (left + 1) search) : search.Continues := by
  obtain ⟨middle, from_end, tested, lowest, highest, width⟩ := halved
  have wide := width.wide
  unfold Continues
  rw [middle, gt_iff_lt, lt_abs]
  omega

/-- A test halves the interval once more, or finds the quality. -/
theorem Halved.next {left : Nat} (halved : Halved (left + 1) search) (sizeTarget sizeCur : Int) :
    Halved left (search.next sizeTarget sizeCur) ∨
      (sizeCur = sizeTarget ∧ Ended (search.next sizeTarget sizeCur)) := by
  obtain ⟨low, high⟩ := halved.quality_range
  obtain ⟨middle, from_end, tested, lowest, highest, width⟩ := halved
  obtain ⟨below, above⟩ := @Width.half search left
    ⟨(search.quality + search.minQual) / 2, search.quality, search.minQual, search.quality⟩
    ⟨(search.quality + search.maxQual) / 2, search.quality, search.quality, search.maxQual⟩
    width middle ⟨rfl, rfl, rfl⟩ ⟨rfl, rfl, rfl⟩
  have wide := width.wide
  rcases Int.lt_trichotomy sizeCur sizeTarget with short | rfl | long
  · left
    rw [next_short short, Int.tdiv_eq_ediv_of_nonneg (by omega)]
    exact ⟨rfl, .inl rfl, ⟨low, high⟩, by dsimp only; omega, highest, above⟩
  · right
    rw [next_equal]
    refine ⟨rfl, ?_, low, high⟩
    unfold Continues
    simp
  · left
    rw [next_long long, Int.tdiv_eq_ediv_of_nonneg (by omega)]
    exact ⟨by dsimp only; omega, .inr rfl, ⟨low, high⟩, lowest, by dsimp only; omega, below⟩

/-- The tests left after the first one, at 80. -/
def leftAfter (sizeTarget sizeCur : Int) : Nat := if sizeTarget < sizeCur then 5 else 3

/-- The first test leaves an interval on one side of 80, or finds the quality there. -/
theorem start_next (sizeTarget sizeCur : Int) :
    Halved (leftAfter sizeTarget sizeCur) (start.next sizeTarget sizeCur) ∨
      (sizeCur = sizeTarget ∧ Ended (start.next sizeTarget sizeCur)) := by
  rcases Int.lt_trichotomy sizeCur sizeTarget with short | rfl | long
  · left
    rw [next_short short, leftAfter, if_neg (Int.not_lt.mpr (Int.le_of_lt short))]
    exact ⟨rfl, .inl rfl, by decide, by decide, by decide, rfl⟩
  · right
    rw [next_equal]
    refine ⟨rfl, ?_⟩
    constructor <;> decide
  · left
    rw [next_long long, leftAfter, if_pos long]
    exact ⟨rfl, .inr rfl, by decide, by decide, by decide, rfl⟩

variable {lengths : Nat → Int → Int} {property : QualitySearch → Prop}

/-- From here the search saves `needed` more test files and ends in `found`. -/
def Takes (lengths : Nat → Int → Int) (sizeTarget : Int) (tested : Nat) (search : QualitySearch)
    (needed : Nat) (found : QualitySearch) : Prop :=
  ∀ files, loop lengths sizeTarget files tested search =
    if needed ≤ files then some found else none

theorem takes_nothing {tested : Nat} (still : ¬search.Continues) :
    Takes lengths sizeTarget tested search 0 search := by
  intro files
  rw [if_pos (Nat.zero_le files)]
  cases files <;> exact if_neg still

theorem Takes.test {tested needed : Nat} {found : QualitySearch} (continues : search.Continues)
    (rest : Takes lengths sizeTarget (tested + 1)
      (search.next sizeTarget (lengths tested search.quality)) needed found) :
    Takes lengths sizeTarget tested search (needed + 1) found := by
  intro files
  cases files with
  | zero =>
      rw [if_neg (Nat.not_succ_le_zero needed)]
      exact if_pos continues
  | succ files =>
      simp only [Nat.succ_le_succ_iff]
      exact (if_pos continues).trans (rest files)

/--
How the search ends: in an interval that leaves no step, or earlier with a file of the length.
-/
inductive EndsIn (lengths : Nat → Int → Int) (sizeTarget : Int) (left needed : Nat)
    (search : QualitySearch) : Prop where
  | halved (all : needed = left) (halved : Halved 0 search)
  | found (few : needed ≤ left) (ended : Ended search)
      (same : ∃ tested, lengths tested search.quality = sizeTarget)

variable {left needed : Nat} {found : QualitySearch}

theorem EndsIn.few (ends : EndsIn lengths sizeTarget left needed found) : needed ≤ left := by
  cases ends with
  | halved all => exact all.le
  | found few => exact few

theorem EndsIn.ended (ends : EndsIn lengths sizeTarget left needed found) : Ended found := by
  cases ends with
  | halved _ halved => exact halved.ended
  | found _ ended => exact ended

theorem EndsIn.test (ends : EndsIn lengths sizeTarget left needed found) :
    EndsIn lengths sizeTarget (left + 1) (needed + 1) found := by
  cases ends with
  | halved all halved => exact .halved (congrArg Nat.succ all) halved
  | found few ended same => exact .found (Nat.succ_le_succ few) ended same

/-- A test that gives the length is the last. -/
theorem EndsIn.of_same {tested : Nat} (same : lengths tested search.quality = sizeTarget)
    (ended : Ended (search.next sizeTarget (lengths tested search.quality))) :
    EndsIn lengths sizeTarget (left + 1) 1
      (search.next sizeTarget (lengths tested search.quality)) := by
  refine .found (Nat.le_add_left 1 left) ended ⟨tested, ?_⟩
  rw [same, next_equal]
  exact same

/-- What every test keeps holds when the search ends, with the tests that were left. -/
theorem loop_rule (kept : ∀ tested left search, Halved left search → property search →
      property (search.next sizeTarget (lengths tested search.quality)))
    (halved : Halved left search) (holds : property search) (tested : Nat) :
    ∃ found needed, property found ∧ EndsIn lengths sizeTarget left needed found ∧
      Takes lengths sizeTarget tested search needed found := by
  induction left generalizing search tested with
  | zero => exact ⟨search, 0, holds, .halved rfl halved, takes_nothing halved.ended.still⟩
  | succ left ih =>
      have holdsNext := kept tested _ search halved holds
      rcases halved.next sizeTarget (lengths tested search.quality) with again | ⟨same, ended⟩
      · obtain ⟨found, needed, property, ends, rest⟩ := ih again holdsNext (tested + 1)
        exact ⟨found, needed + 1, property, ends.test, rest.test halved.continues⟩
      · exact ⟨_, 1, holdsNext, .of_same same ended,
          (takes_nothing ended.still).test halved.continues⟩

/-- The whole search: a test of the quality 80 and those it leaves. -/
theorem search_rule (kept : ∀ tested left search, Halved left search → property search →
      property (search.next sizeTarget (lengths tested search.quality)))
    (first : property (start.next sizeTarget (lengths 0 80))) :
    ∃ found needed, property found ∧
      EndsIn lengths sizeTarget (leftAfter sizeTarget (lengths 0 80) + 1) needed found ∧
      Takes lengths sizeTarget 0 start needed found := by
  have continues : start.Continues := by decide
  rcases start_next sizeTarget (lengths 0 80) with halved | ⟨same, ended⟩
  · obtain ⟨found, needed, holds, ends, rest⟩ := loop_rule kept halved first 1
    exact ⟨found, needed + 1, holds, ends.test, rest.test continues⟩
  · exact ⟨_, 1, first, @EndsIn.of_same start sizeTarget lengths _ 0 same ended,
      (takes_nothing ended.still).test continues⟩

theorem leftAfter_le (sizeTarget sizeCur : Int) : leftAfter sizeTarget sizeCur + 1 ≤ 6 := by
  unfold leftAfter
  split_ifs <;> decide

theorem Takes.detectQuality (takes : Takes lengths sizeTarget 0 start needed found)
    (files : Nat) : detectQuality files lengths sizeTarget =
      if needed ≤ files then some found.quality else none := by
  unfold Editing.detectQuality
  rw [takes files]
  split_ifs <;> rfl

/-- The target lies in the interval: a tested end gave a file that is shorter, or longer. -/
structure Encloses (sizes : Int → Int) (sizeTarget : Int) (search : QualitySearch) : Prop where
  shorter : search.minQual = 0 ∨ sizes search.minQual < sizeTarget
  longer : search.maxQual = 100 ∨ sizeTarget < sizes search.maxQual

/-- A test keeps the target in the interval. -/
theorem Encloses.next {sizes : Int → Int} (encloses : Encloses sizes sizeTarget search) :
    Encloses sizes sizeTarget (search.next sizeTarget (sizes search.quality)) := by
  rcases Int.lt_trichotomy (sizes search.quality) sizeTarget with short | same | long
  · rw [next_short short]
    exact ⟨.inr short, encloses.longer⟩
  · rw [same, next_equal]
    exact ⟨encloses.shorter, encloses.longer⟩
  · rw [next_long long]
    exact ⟨encloses.shorter, .inr long⟩

/--
The lengths cross the target here: every lower quality, but 0, gives a shorter file, and
every one above the next, but 100, a longer file.
-/
structure Crosses (sizes : Int → Int) (sizeTarget quality : Int) : Prop where
  below : ∀ lower ∈ Set.Icc (1 : Int) 99, lower < quality → sizes lower < sizeTarget
  above : ∀ higher ∈ Set.Icc (0 : Int) 99, quality + 1 < higher → sizeTarget < sizes higher

/-- Where the interval leaves no step the lengths cross the target. -/
theorem Halved.crosses {sizes : Int → Int} (halved : Halved 0 search)
    (grows : MonotoneOn sizes (Set.Icc 0 100)) (encloses : Encloses sizes sizeTarget search) :
    Crosses sizes sizeTarget search.quality := by
  obtain ⟨middle, from_end, tested, lowest, highest, width⟩ := halved
  unfold Width at width
  constructor
  · rintro quality ⟨positive, high⟩ less
    rcases encloses.shorter with zero | shorter
    · omega
    · exact (grows ⟨by omega, by omega⟩ ⟨by omega, by omega⟩ (by omega)).trans_lt shorter
  · rintro quality ⟨low, high⟩ more
    rcases encloses.longer with hundred | longer
    · omega
    · exact longer.trans_le (grows ⟨by omega, by omega⟩ ⟨by omega, by omega⟩ (by omega))

/-- With lengths that do not fall the search ends at the target. -/
theorem search_crosses {sizes : Int → Int} (grows : MonotoneOn sizes (Set.Icc 0 100))
    (sizeTarget : Int) :
    ∃ found needed, needed ≤ 6 ∧ Ended found ∧
      (sizes found.quality = sizeTarget ∨ Crosses sizes sizeTarget found.quality) ∧
      Takes (fun _ => sizes) sizeTarget 0 start needed found := by
  obtain ⟨found, needed, encloses, ends, takes⟩ :=
    @search_rule sizeTarget (fun _ => sizes) (Encloses sizes sizeTarget)
      (fun _ _ _ _ encloses => encloses.next)
      (@Encloses.next start sizeTarget sizes ⟨.inl rfl, .inl rfl⟩)
  refine ⟨found, needed, ends.few.trans (leftAfter_le _ _), ends.ended, ?_, takes⟩
  cases ends with
  | halved _ halved => exact .inr (halved.crosses grows encloses)
  | found _ _ same =>
      obtain ⟨_, same⟩ := same
      exact .inl same

end QualitySearch

open QualitySearch

/--
Whatever lengths the test files have, the detection ends with a quality from 1 to 98.  It
saves six of them or four, as the first one is longer than the photo or not, or stops
before with one that is as long as the photo.
-/
theorem detectQuality_ends (lengths : Nat → Int → Int) (sizeTarget : Int) :
    ∃ needed quality, (∀ files, detectQuality files lengths sizeTarget =
        if needed ≤ files then some quality else none) ∧
      1 ≤ quality ∧ quality ≤ 98 ∧ needed ≤ 6 ∧
      (needed = (if sizeTarget < lengths 0 80 then 6 else 4) ∨
        ∃ tested, lengths tested quality = sizeTarget) := by
  obtain ⟨found, needed, -, ends, takes⟩ := @search_rule sizeTarget lengths
    (fun _ => True) (fun _ _ _ _ _ => trivial) trivial
  refine ⟨needed, found.quality, takes.detectQuality, ends.ended.low, ends.ended.high,
    ends.few.trans (leftAfter_le _ _), ?_⟩
  cases ends with
  | halved all =>
      left
      rw [all]
      unfold leftAfter
      split_ifs <;> rfl
  | found _ _ same => exact .inr same

example : detectQuality 5 (fun _ quality => quality) 3 = none ∧
    detectQuality 6 (fun _ quality => quality) 3 = some 3 := by decide

/--
When the lengths do not fall as the quality rises, the quality found gives a file as long as
the photo, or the lengths cross its length there.
-/
theorem detectQuality_crosses {sizes : Int → Int} (grows : MonotoneOn sizes (Set.Icc 0 100))
    (sizeTarget : Int) :
    ∃ quality, (sizes quality = sizeTarget ∨ Crosses sizes sizeTarget quality) ∧
      ∀ files, 6 ≤ files → detectQuality files (fun _ => sizes) sizeTarget = some quality := by
  obtain ⟨found, needed, few, -, finds, takes⟩ := search_crosses grows sizeTarget
  refine ⟨found.quality, finds, fun files enough => ?_⟩
  rw [takes.detectQuality, if_pos (few.trans enough)]

theorem detectQuality_crosses_sample :
    ∃ quality, (quality / 10 = 9 ∨ Crosses (fun quality => quality / 10) 9 quality) ∧
      ∀ files, 6 ≤ files →
        detectQuality files (fun _ quality => quality / 10) 9 = some quality :=
  @detectQuality_crosses (fun quality => quality / 10)
    (fun _ _ _ _ less => Int.ediv_le_ediv (by decide) less) 9

/--
When longer files mean higher qualities, the quality a photo was saved with is detected to
within one; only a photo of quality 100 is taken for one of 98.
-/
theorem detectQuality_close {sizes : Int → Int} {wanted : Int}
    (grows : StrictMonoOn sizes (Set.Icc 0 100)) (inside : wanted ∈ Set.Icc (0 : Int) 100) :
    ∃ quality, (if wanted = 100 then quality = 98 else |quality - wanted| ≤ 1) ∧
      ∀ files, 6 ≤ files → detectQuality files (fun _ => sizes) (sizes wanted) = some quality := by
  obtain ⟨found, needed, few, ⟨-, low, high⟩, finds, takes⟩ :=
    search_crosses grows.monotoneOn (sizes wanted)
  refine ⟨found.quality, ?_, fun files enough => ?_⟩
  · obtain ⟨least, most⟩ := inside
    rcases finds with same | crosses
    · have exact_quality : found.quality = wanted :=
        grows.injOn ⟨by omega, by omega⟩ ⟨least, most⟩ same
      rw [if_neg (by omega), exact_quality, Int.sub_self]
      decide
    · -- the neighbours of the interval's ends lie on either side of the wanted quality
      have atMost : found.quality = 1 ∨ found.quality - 1 < wanted := by
        rcases Int.lt_or_eq_of_le low with more | one
        · have shorter := crosses.below (found.quality - 1) ⟨by omega, by omega⟩ (by omega)
          exact .inr ((grows.lt_iff_lt ⟨by omega, by omega⟩ ⟨least, most⟩).mp shorter)
        · exact .inl one.symm
      have atLeast : found.quality = 98 ∨ wanted < found.quality + 2 := by
        rcases Int.lt_or_eq_of_le high with fewer | last
        · have longer := crosses.above (found.quality + 2) ⟨by omega, by omega⟩ (by omega)
          exact .inr ((grows.lt_iff_lt ⟨least, most⟩ ⟨by omega, by omega⟩).mp longer)
        · exact .inl last
      split
      · omega
      · rw [abs_le]
        omega
  · rw [takes.detectQuality, if_pos (few.trans enough)]

end RPhoto.Editing
