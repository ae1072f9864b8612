import RPhoto.Lossless.Program

/-!
# A transformation and the one that undoes it

Both attempts of a transformation transform the picture as it is after cutting its
mirrored edges back to whole iMCUs; the first is only made where nothing is cut off.
So the button that undoes a rotation or a flip restores what the first had kept, with
every coefficient, and cuts nothing more.
-/

namespace RPhoto.Lossless

open RPhoto.Jpeg RPhoto.Library
open RPhoto.Editing (JpegtranCommand Attempt)

/-- The header of a picture cut back to what a transformation keeps. -/
def Header.kept (header : Header) (transform : Transform) : Header :=
  { header with
    imageWidth :=
      keptLength (if transform.transposes then transform.mirrorsY else transform.mirrorsX)
        (uncropped header.dimensions .none).mcuWidth header.imageWidth
    imageHeight :=
      keptLength (if transform.transposes then transform.mirrorsX else transform.mirrorsY)
        (uncropped header.dimensions .none).mcuHeight header.imageHeight }

theorem keptLength_pos {mirrored : Bool} {mcu full : Nat} (positive : 0 < mcu)
    (some_length : 0 < full) : 0 < keptLength mirrored mcu full := by
  unfold keptLength
  split
  · rename_i fits
    exact Nat.mul_pos (Nat.div_pos fits.2 positive) positive
  · exact some_length

theorem keptLength_le {mirrored : Bool} {mcu full : Nat} : keptLength mirrored mcu full ≤ full := by
  unfold keptLength
  split
  · exact Nat.div_mul_le_self full mcu
  · exact Nat.le_refl full

/-- Cutting leaves the whole iMCUs of a length. -/
theorem keptLength_div (mirrored : Bool) {mcu : Nat} (positive : 0 < mcu) (full : Nat) :
    keptLength mirrored mcu full / mcu = full / mcu := by
  unfold keptLength
  split
  · exact Nat.mul_div_cancel _ positive
  · rfl

theorem keptLength_keptLength {mirrored : Bool} {mcu : Nat} (positive : 0 < mcu) (full : Nat) :
    keptLength mirrored mcu (keptLength mirrored mcu full) = keptLength mirrored mcu full := by
  by_cases fits : mirrored = true ∧ mcu ≤ full
  · have kept : keptLength mirrored mcu full = full / mcu * mcu := if_pos fits
    have still : mirrored = true ∧ mcu ≤ keptLength mirrored mcu full := by
      refine ⟨fits.1, ?_⟩
      rw [kept]
      exact Nat.le_mul_of_pos_left mcu (Nat.div_pos fits.2 positive)
    calc keptLength mirrored mcu (keptLength mirrored mcu full)
        = keptLength mirrored mcu full / mcu * mcu := if_pos still
      _ = full / mcu * mcu := by rw [keptLength_div mirrored positive]
      _ = keptLength mirrored mcu full := kept.symm
  · have kept : keptLength mirrored mcu full = full := if_neg fits
    rw [kept, kept]

variable {image result : Image} {header : Header} {transform : Transform}

theorem Header.mcu_kept (header : Header) (transform other : Transform) :
    (uncropped (header.kept transform).dimensions other).mcuWidth =
        (uncropped header.dimensions other).mcuWidth ∧
      (uncropped (header.kept transform).dimensions other).mcuHeight =
        (uncropped header.dimensions other).mcuHeight := by
  unfold TransformInfo.mcuWidth TransformInfo.mcuHeight uncropped
  cases other.transposes <;> exact ⟨rfl, rfl⟩

theorem Image.kept_setUp (image : Image) (transform : Transform) :
    (image.header.kept transform).SetUp := by
  have positive := uncropped_mcu_pos image .none
  refine ⟨⟨?_, ?_⟩, ⟨?_, ?_⟩, image.setUp.components, image.setUp.sampling⟩
  · exact keptLength_pos positive.1 image.setUp.width.1
  · exact Nat.le_trans keptLength_le image.setUp.width.2
  · exact keptLength_pos positive.2 image.setUp.height.1
  · exact Nat.le_trans keptLength_le image.setUp.height.2

/-- The picture cut back to what a transformation keeps. -/
def Image.kept (image : Image) (transform : Transform) : Image :=
  { image with
    header := image.header.kept transform
    setUp := image.kept_setUp transform }

theorem Image.kept_eq (same : image.header.kept transform = image.header) :
    image.kept transform = image := by
  cases image
  unfold Image.kept
  dsimp only at same ⊢
  congr

/-- The size of the cut picture, as the transformation sees it. -/
theorem kept_size (header : Header) (transform : Transform) :
    fullWidth (header.kept transform).dimensions transform =
        keptLength transform.mirrorsX (uncropped header.dimensions transform).mcuWidth
          (fullWidth header.dimensions transform) ∧
      fullHeight (header.kept transform).dimensions transform =
        keptLength transform.mirrorsY (uncropped header.dimensions transform).mcuHeight
          (fullHeight header.dimensions transform) := by
  unfold fullWidth fullHeight TransformInfo.mcuWidth TransformInfo.mcuHeight
  cases transform <;> exact ⟨rfl, rfl⟩

/-- What the tests of an attempt find is the region of the cut picture. -/
theorem kept_region {option : TransformOption} {info : TransformInfo}
    (uncroppedOption : option.crop = none)
    (attempted : option.trim = true ∨ option.perfect = true)
    (accepts : Accepts image option info) :
    info = uncropped (image.kept option.transform).header.dimensions option.transform := by
  have request := request_uncropped uncroppedOption
    (uncropped_mcu_pos image option.transform) accepts.region
  have whole : option.trim = false → _ := fun plain => perfect_whole accepts.inside (by
    by_contra imperfect
    rcases attempted with trims | perfect
    · exact absurd (plain.symm.trans trims) Bool.false_ne_true
    · exact accepts.perfect ⟨perfect, imperfect⟩)
  have same := accepts.inside.mcu_eq
  obtain ⟨width, height⟩ := kept_size image.header option.transform
  have keptX : keptLength (option.trim && option.transform.mirrorsX)
        (uncropped image.header.dimensions option.transform).mcuWidth
        (fullWidth image.header.dimensions option.transform) =
      keptLength option.transform.mirrorsX
        (uncropped image.header.dimensions option.transform).mcuWidth
        (fullWidth image.header.dimensions option.transform) := by
    cases trim : option.trim with
    | true => rw [Bool.true_and]
    | false =>
        have divides := (whole trim).1
        rw [same.1] at divides
        rw [keptLength_whole divides]
        exact (@keptLength_whole option.transform.mirrorsX true _ _ divides).symm
  have keptY : keptLength (option.trim && option.transform.mirrorsY)
        (uncropped image.header.dimensions option.transform).mcuHeight
        (fullHeight image.header.dimensions option.transform) =
      keptLength option.transform.mirrorsY
        (uncropped image.header.dimensions option.transform).mcuHeight
        (fullHeight image.header.dimensions option.transform) := by
    cases trim : option.trim with
    | true => rw [Bool.true_and]
    | false =>
        have divides := (whole trim).2
        rw [same.2] at divides
        rw [keptLength_whole divides]
        exact (@keptLength_whole option.transform.mirrorsY true _ _ divides).symm
  rw [keptX, keptY, ← width, ← height] at request
  rw [request]
  unfold fullWidth fullHeight uncropped
  cases option.transform.transposes <;> rfl

/-- The frame of the destination does not depend on the size of the source. -/
theorem adjust_kept (header : Header) (transform : Transform) (info : TransformInfo) :
    adjustParameters (header.kept transform) transform info =
      adjustParameters header transform info := by
  unfold adjustParameters normalizeSampling Header.kept
  by_cases single : header.numComponents = 1 <;> simp [single]

/-- Cutting leaves the zones a transformation mirrors. -/
theorem turnOf_kept (header : Header) (transform : Transform) (ci : Nat) :
    let info := uncropped (header.kept transform).dimensions transform
    0 < info.mcuWidth ∧ 0 < info.mcuHeight →
      turnOf (header.kept transform) transform info ci = turnOf header transform info ci := by
  rintro info ⟨wide, high⟩
  obtain ⟨mcuWidth, mcuHeight⟩ := header.mcu_kept transform transform
  obtain ⟨width, height⟩ := kept_size header transform
  unfold turnOf
  rw [adjust_kept, width, height, ← mcuWidth, ← mcuHeight, keptLength_div _ wide,
    keptLength_div _ high]

/-- Either attempt is the plain transformation of the cut picture. -/
theorem turned_kept {option : TransformOption} {info : TransformInfo}
    (uncroppedOption : option.crop = none)
    (attempted : option.trim = true ∨ option.perfect = true)
    (accepts : Accepts image option info)
    (turns : Turned option.transform info image result) :
    Turned option.transform
      (uncropped (image.kept option.transform).header.dimensions option.transform)
      (image.kept option.transform) result := by
  obtain rfl := kept_region uncroppedOption attempted accepts
  have positive := uncropped_mcu_pos (image.kept option.transform) option.transform
  refine ⟨?_, turns.quantTable, fun ci known row inRows column inColumns => ?_⟩
  · rw [turns.header]
    exact (adjust_kept _ _ _).symm
  · rw [turns.block ci known row inRows column inColumns]
    exact congrArg (fun turn => turned turn (image.block ci) _ _)
      (turnOf_kept image.header option.transform ci positive).symm

/-- The transformation that undoes another. -/
def Transform.undoing : Transform → Transform
  | .rot90 => .rot270
  | .rot270 => .rot90
  | transform => transform

theorem Transform.undoes (transform : Transform) : transform.andThen transform.undoing = .none := by
  cases transform <;> rfl

/-- The iMCU turns with the picture. -/
theorem Header.mcu_after (header : Header) (transform : Transform) :
    (uncropped (header.after transform).dimensions .none).mcuWidth =
        (if transform.transposes then (uncropped header.dimensions .none).mcuHeight
          else (uncropped header.dimensions .none).mcuWidth) ∧
      (uncropped (header.after transform).dimensions .none).mcuHeight =
        (if transform.transposes then (uncropped header.dimensions .none).mcuWidth
          else (uncropped header.dimensions .none).mcuHeight) := by
  have across := congrArg Axis.mcu (@Header.axisX_after header transform 0)
  have down := congrArg Axis.mcu (@Header.axisY_after header transform 0)
  cases transposes : transform.transposes with
  | false =>
      rw [transposes] at across down
      exact ⟨across, down⟩
  | true =>
      rw [transposes] at across down
      exact ⟨across, down⟩

/-- The undoing transformation cuts nothing more. -/
theorem kept_undoing (header : Header) (transform : Transform)
    (positive : 0 < (uncropped header.dimensions .none).mcuWidth ∧
      0 < (uncropped header.dimensions .none).mcuHeight) :
    ((header.kept transform).after transform).kept transform.undoing =
      (header.kept transform).after transform := by
  obtain ⟨mcuWidth, mcuHeight⟩ := (header.kept transform).mcu_after transform
  obtain ⟨keptWidth, keptHeight⟩ := header.mcu_kept transform .none
  rw [keptWidth, keptHeight] at mcuWidth mcuHeight
  have width := @Header.imageWidth_after (header.kept transform) transform
  have height := @Header.imageHeight_after (header.kept transform) transform
  refine Header.ext ?_ ?_ rfl rfl rfl
  · change keptLength _ _ _ = _
    rw [mcuWidth, width]
    cases transform <;>
      first
      | exact keptLength_keptLength positive.1 header.imageWidth
      | exact keptLength_keptLength positive.2 header.imageHeight
  · change keptLength _ _ _ = _
    rw [mcuHeight, height]
    cases transform <;>
      first
      | exact keptLength_keptLength positive.2 header.imageHeight
      | exact keptLength_keptLength positive.1 header.imageWidth

/-! ## Two buttons -/

/-- The command that undoes a rotation or a flip. -/
def undoingCommand : JpegtranCommand → JpegtranCommand
  | .rotate90 => .rotate270
  | .rotate270 => .rotate90
  | command => command

variable {system : System} {command : JpegtranCommand} {filename : Text} {files : Files}
  {data : Bytes}

/-- The second attempt of a rotation or a flip passes its tests whenever the tables do. -/
theorem trim_accepts (uncroppedCommand : commandCrop command = none)
    (tables : copiesCriticalParameters image) :
    ∃ info, Accepts image (commandSwitches .trim command filename).option info := by
  obtain ⟨info, region⟩ : ∃ info, requestWorkspace image.header.dimensions
      (commandSwitches .trim command filename).option = some info := by
    unfold requestWorkspace croppedRegion
    rw [show (commandSwitches .trim command filename).option.crop = none from uncroppedCommand]
    exact ⟨_, rfl⟩
  exact ⟨info, (fun fails => Bool.false_ne_true fails.1), region, tables⟩

/-- A rotation or a flip is carried out on every file that decodes silently. -/
theorem tryPerfect_turns (turns : Turns command) (named : filename.head? ≠ some '-')
    (present : files.content filename = some data) (opens : system.opens filename = true)
    (decodes : system.read data = some (image, false)) (tables : copiesCriticalParameters image)
    (fits : image.header.Fits none)
    (rereads : ∀ attempt, system.Rereads (commandSwitches attempt command filename) data) :
    ∃ output result reread attempt,
      system.tryPerfect command filename files = (files.write filename output, true) ∧
      system.jpegtran filename attempt command data = some output ∧
      Turned (commandTransform command)
        (uncropped (image.kept (commandTransform command)).header.dimensions
          (commandTransform command))
        (image.kept (commandTransform command)) result ∧
      system.read output = some (reread, false) ∧ SamePicture result reread := by
  obtain ⟨⟨selects, begins⟩, sequential, uncroppedCommand⟩ := turns.plain
  by_cases perfect : ∃ info,
      Accepts image (commandSwitches .perfect command filename).option info
  · obtain ⟨info, accepts⟩ := perfect
    obtain ⟨output, result, reread, ran, gives, turned, read, same⟩ :=
      @subCallJPEGTran_accepts _ _ _ _ files _ selects begins sequential named present opens
        .perfect _ info decodes fits accepts (rereads .perfect)
    refine ⟨output, result, reread, .perfect, ?_, gives,
      turned_kept uncroppedCommand (.inr rfl) accepts turned, read, same⟩
    unfold System.tryPerfect
    rw [ran]
    rfl
  · have refused := passesTests_iff.not.mpr perfect
    obtain ⟨info, accepts⟩ := @trim_accepts image command filename uncroppedCommand tables
    obtain ⟨output, result, reread, ran, gives, turned, read, same⟩ :=
      @subCallJPEGTran_accepts _ _ _ _ files _ selects begins sequential named present opens
        .trim _ info decodes fits accepts (rereads .trim)
    refine ⟨output, result, reread, .trim, ?_, gives,
      turned_kept uncroppedCommand (.inl rfl) accepts turned, read, same⟩
    have failed : system.subCallJPEGTran .perfect command filename files = (files, false) := by
      rw [subCallJPEGTran_eq .perfect selects begins named present,
        transcode_of_refused decodes (Bool.eq_false_iff.mpr refused)]
      rfl
    unfold System.tryPerfect
    rw [failed]
    exact ran

theorem Turns.undoing (turns : Turns command) :
    Turns (undoingCommand command) ∧
      commandTransform (undoingCommand command) = (commandTransform command).undoing := by
  cases command with
  | crop zone => exact absurd rfl turns
  | optimize => exact absurd rfl turns
  | progressive => exact absurd rfl turns
  | _ => exact ⟨(fun same => nomatch same), rfl⟩

/--
A decoder finds this image again: its frame, with the sampling factors of a single
component forced to one, its tables and its coefficients.
-/
structure Restores (image back : Image) : Prop where
  header : back.header = normalizeSampling image.header
  quantTable : ∀ ci < image.header.numComponents, back.quantTable ci = image.quantTable ci
  block : ∀ ci < image.header.numComponents, ∀ row < image.header.heightInBlocks ci,
    ∀ column < image.header.widthInBlocks ci, back.block ci row column = image.block ci row column

/-- The frame in blocks does not depend on the sampling factors of a single component. -/
theorem blocks_normalizeSampling (image : Image) {ci : Nat}
    (known : ci < image.header.numComponents) :
    (normalizeSampling image.header).heightInBlocks ci = image.header.heightInBlocks ci ∧
      (normalizeSampling image.header).widthInBlocks ci = image.header.widthInBlocks ci := by
  by_cases single : image.header.numComponents = 1
  · obtain rfl : ci = 0 := by omega
    have sampled := image.sampling_pos known
    have positive : 0 < dctSize := by decide
    have counted : (normalizeSampling image.header).numComponents = 1 := by
      rw [normalizeSampling, if_pos single]
      exact single
    have one : (normalizeSampling image.header).compInfo 0 =
        { image.header.compInfo 0 with hSampFactor := 1, vSampFactor := 1 } := by
      rw [normalizeSampling, if_pos single]
    have size : (normalizeSampling image.header).imageWidth = image.header.imageWidth ∧
        (normalizeSampling image.header).imageHeight = image.header.imageHeight := by
      rw [normalizeSampling, if_pos single]
      exact ⟨rfl, rfl⟩
    unfold Header.heightInBlocks Header.widthInBlocks Header.maxHSampFactor Header.maxVSampFactor
    rw [Header.largest_single Component.hSampFactor single sampled.1,
      Header.largest_single Component.vSampFactor single sampled.2,
      Header.largest_single Component.hSampFactor counted (one ▸ Nat.one_pos),
      Header.largest_single Component.vSampFactor counted (one ▸ Nat.one_pos), one, size.1, size.2]
    exact ⟨(divRoundUp_mul_mul Nat.one_pos positive _).trans
        (divRoundUp_mul_mul sampled.2 positive _).symm,
      (divRoundUp_mul_mul Nat.one_pos positive _).trans
        (divRoundUp_mul_mul sampled.1 positive _).symm⟩
  · rw [normalizeSampling, if_neg single]
    exact ⟨rfl, rfl⟩

/-- What a transformation of nothing writes is the image itself. -/
theorem restores_of_same {cut back : Image}
    (turns : Turned .none (uncropped image.header.dimensions .none) image cut)
    (same : SamePicture back cut) : Restores image back := by
  have after : image.header.after .none = normalizeSampling image.header := by
    unfold Header.after adjustParameters normalizeSampling
    by_cases single : image.header.numComponents = 1
    · rw [if_pos single]
      rfl
    · rw [if_neg single]
      rfl
  have header : back.header = normalizeSampling image.header :=
    same.header.trans (turns.header.trans after)
  have count : back.header.numComponents = image.header.numComponents := by
    rw [same.header, turns.header]
    exact adjust_numComponents _ _ _
  refine ⟨header, fun ci known => ?_, fun ci known row inRows column inColumns => ?_⟩
  · exact (same.quantTable ci (count ▸ known)).trans (turns.quantTable ci known)
  · obtain ⟨height, width⟩ := blocks_normalizeSampling image known
    rw [← height] at inRows
    rw [← width] at inColumns
    rw [same.block ci (count ▸ known) row (header ▸ inRows) column (header ▸ inColumns),
      block_only turns known (after ▸ inRows) (after ▸ inColumns)]
    exact congrFun (congrFun (turned_still (image.block ci)) row) column

/-- Of whole iMCUs nothing is cut. -/
theorem Header.Whole.kept {header : Header} (whole : header.Whole) (transform : Transform) :
    header.kept transform = header := by
  obtain ⟨width, height⟩ := whole.uncropped .none
  refine Header.ext ?_ ?_ rfl rfl rfl
  · exact @keptLength_whole _ true _ _ fun _ => width
  · exact @keptLength_whole _ true _ _ fun _ => height

/--
A rotation or a flip and the button that undoes it leave the picture cut back to what
the first kept, with every coefficient, whichever attempts were needed; of whole iMCUs
nothing is cut.
-/
theorem undoing_restores (turns : Turns command) (named : filename.head? ≠ some '-')
    (present : files.content filename = some data) (opens : system.opens filename = true)
    (decodes : system.read data = some (image, false)) (tables : copiesCriticalParameters image)
    (fits : image.header.Fits none)
    (rereads : ∀ attempt, system.Rereads (commandSwitches attempt command filename) data)
    (rereadsAgain : ∀ attempt output, system.jpegtran filename attempt command data = some output →
      ∀ next, system.Rereads (commandSwitches next (undoingCommand command) filename) output) :
    ∃ between output back,
      system.tryPerfect command filename files = (files.write filename between, true) ∧
      system.tryPerfect (undoingCommand command) filename (files.write filename between) =
        (files.write filename output, true) ∧
      system.read output = some (back, false) ∧
      Restores (image.kept (commandTransform command)) back ∧
      (image.header.Whole → Restores image back) := by
  obtain ⟨turnsBack, undoing⟩ := turns.undoing
  obtain ⟨between, first, reread, attempt, ran, gives, turned, read, same⟩ :=
    tryPerfect_turns turns named present opens decodes tables fits rereads
  have keptTables : copiesCriticalParameters (image.kept (commandTransform command)) := tables
  have header : reread.header = (image.kept (commandTransform command)).header.after
      (commandTransform command) := same.header.symm.trans turned.header
  have fitsKept : (image.kept (commandTransform command)).header.Fits none := fits
  obtain ⟨output, second, back, -, ranAgain, -, turnedAgain, readAgain, sameAgain⟩ :=
    tryPerfect_turns turnsBack named (files.content_write_self filename between) opens read
      (same.tables keptTables turned) (header ▸ fitsKept.adjust _ _)
      (rereadsAgain attempt between gives)
  -- the second transformation cuts nothing
  have uncut : reread.kept (commandTransform (undoingCommand command)) = reread := by
    refine Image.kept_eq ?_
    rw [header, undoing]
    exact kept_undoing image.header (commandTransform command) (uncropped_mcu_pos image .none)
  rw [uncut, undoing] at turnedAgain
  obtain ⟨cut, -, turnsCut⟩ := turns_only keptTables .none system.memory
  have restores : Restores (image.kept (commandTransform command)) back := by
    refine restores_of_same turnsCut (sameAgain.symm.trans ?_)
    rw [← (commandTransform command).undoes] at turnsCut
    exact composed_picture turned same turnedAgain turnsCut
  refine ⟨between, output, back, ran, ?_, readAgain, restores, fun whole => ?_⟩
  · rw [ranAgain, files.write_write]
  · rw [Image.kept_eq (whole.kept (commandTransform command))] at restores
    exact restores

theorem undoing_restores_sample :
    ∃ between output back,
      (sampleSystem wholeImage false).tryPerfect .rotate90 "/tmp/rphoto".toList sampleFiles =
        (sampleFiles.write "/tmp/rphoto".toList between, true) ∧
      (sampleSystem wholeImage false).tryPerfect (undoingCommand .rotate90) "/tmp/rphoto".toList
          (sampleFiles.write "/tmp/rphoto".toList between) =
        (sampleFiles.write "/tmp/rphoto".toList output, true) ∧
      (sampleSystem wholeImage false).read output = some (back, false) ∧
      Restores (wholeImage.kept (commandTransform .rotate90)) back ∧
      (wholeImage.header.Whole → Restores wholeImage back) :=
  @undoing_restores wholeImage (sampleSystem wholeImage false) .rotate90 "/tmp/rphoto".toList
    sampleFiles [] (by decide) (by decide) (by decide +kernel) rfl rfl (by decide +kernel)
    (by decide)
    (fun attempt => sampleSystem_rereads wholeImage false (by decide) attempt _ _)
    fun _ output _ next => sampleSystem_rereads wholeImage false (by decide) next _ output

end RPhoto.Lossless
