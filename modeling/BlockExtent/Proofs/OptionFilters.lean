import BlockExtent.Proofs.FlagWords
import BlockExtent.Proofs.InspectionAgreement
import BlockExtent.Proofs.Numerals
import BlockExtent.Proofs.Treatment
import Mathlib.Data.List.DropRight
import Mathlib.Data.List.Flatten

/-!
# The options as filters of the output

Without raw codes, each of the two options of an inspection acts on the lines that the command
prints. To require block devices drops the lines of all other objects and makes the command fail on
them. To allow the fallback adds the lines of the block devices that refuse the size request, and
changes no line besides. Either holds whether the other option is given or not, so it does not
matter which of them is thought of first.

## Implementation notes

A path may hold anything, so a line is told to be that of a block device by its end: the kind stands
before the last comma, and the length after it has none.
-/

namespace BlockExtent

/-- Whether a line is that of a block device. -/
def Line.ofBlock (line : String) : Bool :=
  (": block device,".toList).isSuffixOf (line.toList.rdropWhile (· ≠ ','))

section Last

variable {α : Type} {p : α → Bool} {x : α} (before : List α) {after : List α}
variable (stops : p x = false) (passes : ∀ c ∈ after, p c = true)

include stops passes

/-- What stands before the last item of a kind, and that item. -/
theorem rdropWhile_append_cons : (before ++ x :: after).rdropWhile p = before ++ [x] := by
  have kept : ∀ c ∈ after.reverse, p c = true := by
    intro c among
    exact passes c (List.mem_reverse.mp among)
  rw [List.rdropWhile, List.reverse_append, List.reverse_cons, List.append_assoc,
    List.dropWhile_append_of_pos kept]
  simp [stops]

/-- What stands after the last item of a kind. -/
theorem rtakeWhile_append_cons : (before ++ x :: after).rtakeWhile p = after := by
  have kept : ∀ c ∈ after.reverse, p c = true := by
    intro c among
    exact passes c (List.mem_reverse.mp among)
  rw [List.rtakeWhile, List.reverse_append, List.reverse_cons, List.append_assoc,
    List.takeWhile_append_of_pos kept]
  simp [stops]

end Last

/-- What stands before the last comma. -/
theorem rdropWhile_comma (before after : List Char) (last : ',' ∉ after) :
    (before ++ ',' :: after).rdropWhile (· ≠ ',') = before ++ [','] := by
  apply rdropWhile_append_cons before (by simp)
  intro c among
  simpa using ne_of_mem_of_not_mem among last

theorem Numeral.comma_not_mem_decimal (n : Nat) : ',' ∉ (Numeral.decimal n).toList := by
  intro among
  cases Numeral.isDigit_of_mem_decimal among

/-- The end of a line shows the kind, whatever the path. -/
theorem Line.ofBlock_plain (path : Bytes) (kind : DeviceKind) (length : UInt64) :
    Line.ofBlock (Line.plain path kind length) = kind.isBlock := by
  have last : ',' ∉ " ".toList ++ (Numeral.decimal length.toNat).toList ++ " bytes".toList := by
    simp [Numeral.comma_not_mem_decimal]
  have text : (Line.plain path kind length).toList =
      ((Utf8.lossy path).toList ++ (": " ++ kind.text).toList) ++
        ',' :: (" ".toList ++ (Numeral.decimal length.toNat).toList ++ " bytes".toList) := by
    simp [Line.plain]
  rw [Line.ofBlock, text, rdropWhile_comma _ _ last]
  cases kind with
  | block =>
      rw [DeviceKind.isBlock, decide_eq_true rfl, List.isSuffixOf_iff_suffix]
      exact ⟨(Utf8.lossy path).toList, by simp [DeviceKind.text]⟩
  | other =>
      -- Both would end the line, and then the shorter one would end the longer one.
      have ends : ": not a block device,".toList <:+
          ((Utf8.lossy path).toList ++ (": " ++ DeviceKind.other.text).toList) ++ [','] :=
        ⟨(Utf8.lossy path).toList, by simp [DeviceKind.text]⟩
      rw [DeviceKind.isBlock, decide_eq_false nofun, Bool.eq_false_iff, Ne,
        List.isSuffixOf_iff_suffix]
      intro block
      exact absurd (List.suffix_of_suffix_length_le block ends (by decide)) (by decide)

namespace Inspection

variable (allow require : Bool) (statusReply : Except Errno FileStatus) (sizeReply : SizeReply)

/-- To require a block device is to inspect without that and refuse whatever is none. -/
theorem extentResult_require :
    extentResult ⟨allow, true⟩ statusReply sizeReply =
      (extentResult ⟨allow, false⟩ statusReply sizeReply).bind fun extent =>
        if extent.kind.isBlock then .ok extent else .error .notBlockDevice := by
  cases statusReply with
  | error e => rfl
  | ok status =>
      simp only [extentResult, statusResult]
      cases DeviceKind.ofMode status.mode with
      | other => rfl
      | block =>
          cases sizeReply with
          | answered code stored accepted => rfl
          | refused e => cases allow <;> rfl

/-- A block device that refuses the size request fails for that, or else has its status size. -/
theorem extentResult_of_refused {status : FileStatus} (e : Errno)
    (block : DeviceKind.ofMode status.mode = .block) :
    extentResult ⟨false, require⟩ (.ok status) (.refused e) = .error (.controlRequest (cause e)) ∧
      extentResult ⟨true, require⟩ (.ok status) (.refused e) = .ok (.fallback status.length) := by
  simp [extentResult, statusResult, extentOf, lengthResult, block]

/-- The fallback is of no account to anything else. -/
theorem extentResult_of_not_refused
    (other : ∀ status e, statusReply = .ok status → DeviceKind.ofMode status.mode = .block →
      sizeReply ≠ .refused e) :
    extentResult ⟨true, require⟩ statusReply sizeReply =
      extentResult ⟨false, require⟩ statusReply sizeReply := by
  cases statusReply with
  | error e => rfl
  | ok status =>
      simp only [extentResult, statusResult]
      cases kind : DeviceKind.ofMode status.mode with
      | other => rfl
      | block =>
          cases sizeReply with
          | answered code stored accepted => rfl
          | refused e => exact absurd rfl (other status e rfl kind)

end Inspection

namespace Kernel

variable {kernel : Kernel} {path : Bytes} {status : FileStatus}

/-- A path leads to a block device of this status that refuses the size request. -/
def RefusesSize (kernel : Kernel) (path : Bytes) (status : FileStatus) : Prop :=
  let opening := (Action.openPath path).run .off kernel
  ∃ n e, opening.value = .ok n ∧ opening.kernel.status n = .ok status ∧
    DeviceKind.ofMode status.mode = .block ∧ opening.kernel.sizeReply n = .refused e

theorem refusesSize_iff :
    kernel.RefusesSize path status ↔
      ∃ opening e, kernel.opened path = .ok opening ∧ opening.status = .ok status ∧
        DeviceKind.ofMode status.mode = .block ∧ opening.sizeReply = .refused e := by
  have seen {opening : Opened} (opens : kernel.opened path = .ok opening) :
      ((Action.openPath path).run .off kernel).kernel.status opening.descriptor = opening.status ∧
        ((Action.openPath path).run .off kernel).kernel.sizeReply opening.descriptor =
          opening.sizeReply := by
    obtain ⟨-, -, shows⟩ := shows_of_opened opens
    rw [(Action.openPath_of_ok .off opens).2]
    exact ⟨shows.status, shows.sizeReply⟩
  constructor
  · rintro ⟨n, e, answered, found, block, refused⟩
    obtain ⟨opening, opens, rfl⟩ := (Action.openPath_ok_iff .off).mp answered
    rw [(seen opens).1] at found
    rw [(seen opens).2] at refused
    exact ⟨opening, e, opens, found, block, refused⟩
  · rintro ⟨opening, e, opens, found, block, refused⟩
    have answered := (Action.openPath_ok_iff .off).mpr ⟨opening, opens, rfl⟩
    exact ⟨opening.descriptor, e, answered, (seen opens).1.trans found, block,
      (seen opens).2.trans refused⟩

end Kernel

namespace Command

section Guard

variable {ε : Type} (shown : Except ε String) (keep : String → Bool) (e : ε)

/-- To fail with what is not kept is to filter what is shown. -/
theorem toList_bind_guard :
    (shown.bind fun line => if keep line then .ok line else .error e).toOption.toList =
      shown.toOption.toList.filter keep := by
  cases shown with
  | error e' => rfl
  | ok line => cases kept : keep line <;> simp [Except.bind, Except.toOption, kept]

theorem isOk_bind_guard :
    (shown.bind fun line => if keep line then .ok line else .error e).isOk = false ↔
      shown.isOk = false ∨ ∃ line ∈ shown.toOption.toList, keep line = false := by
  cases shown with
  | error e' => simp [Except.bind, Except.isOk, Except.toBool]
  | ok line =>
      cases kept : keep line <;>
        simp [Except.bind, Except.isOk, Except.toBool, Except.toOption, kept]

end Guard

section Outcome

variable {asked : Arguments} (plain : asked.raw = false) (kernel : Kernel) (path : Bytes)

include plain

theorem outcome_plain (options : Options) :
    outcome (asked.withOptions options) kernel path =
      (kernel.opened path).bind fun opening =>
        match Inspection.extentResult options opening.status opening.sizeReply with
        | .error e => .error e.toSystemError
        | .ok extent => .ok (Line.plain path extent.kind extent.length) := by
  rw [outcome]
  cases kernel.opened path with
  | error e => rfl
  | ok opening =>
      simp only [lineOf, Arguments.withOptions, Arguments.options, plain, Bool.false_eq_true,
        if_false]
      rfl

/-- To require block devices is to do without that, and to fail where the line is not of one. -/
theorem outcome_require (allow : Bool) :
    outcome (asked.withOptions ⟨allow, true⟩) kernel path =
      (outcome (asked.withOptions ⟨allow, false⟩) kernel path).bind fun line =>
        if Line.ofBlock line then .ok line
        else .error InspectError.notBlockDevice.toSystemError := by
  rw [outcome_plain plain, outcome_plain plain]
  cases kernel.opened path with
  | error e => rfl
  | ok opening =>
      simp only [Except.bind, Inspection.extentResult_require allow]
      cases Inspection.extentResult ⟨allow, false⟩ opening.status opening.sizeReply with
      | error e => rfl
      | ok extent =>
          simp only [Line.ofBlock_plain]
          cases extent.kind.isBlock <;> rfl

theorem outcome_of_refusesSize {status : FileStatus} (refuses : kernel.RefusesSize path status)
    (require : Bool) :
    (∃ e, outcome (asked.withOptions ⟨false, require⟩) kernel path = .error e) ∧
      outcome (asked.withOptions ⟨true, require⟩) kernel path =
        .ok (Line.plain path .block status.length) := by
  obtain ⟨opening, e, opens, found, block, refused⟩ := Kernel.refusesSize_iff.mp refuses
  obtain ⟨without, fallback⟩ := Inspection.extentResult_of_refused require e block
  rw [outcome_plain plain, outcome_plain plain, opens]
  simp only [Except.bind, found, refused, without, fallback]
  exact ⟨⟨_, rfl⟩, rfl⟩

theorem outcome_of_not_refusesSize (other : ∀ status, ¬ kernel.RefusesSize path status)
    (require : Bool) :
    outcome (asked.withOptions ⟨true, require⟩) kernel path =
      outcome (asked.withOptions ⟨false, require⟩) kernel path := by
  rw [outcome_plain plain, outcome_plain plain]
  cases opens : kernel.opened path with
  | error e => rfl
  | ok opening =>
      have same := Inspection.extentResult_of_not_refused require opening.status opening.sizeReply
        fun status e found block refused =>
          other status (Kernel.refusesSize_iff.mpr ⟨opening, e, opens, found, block, refused⟩)
      simp only [Except.bind, same]

/-- A path that has its line without the fallback has the same one with it. -/
theorem outcome_allow (require : Bool)
    (succeeds : (outcome (asked.withOptions ⟨false, require⟩) kernel path).isOk = true) :
    outcome (asked.withOptions ⟨true, require⟩) kernel path =
      outcome (asked.withOptions ⟨false, require⟩) kernel path := by
  apply outcome_of_not_refusesSize plain
  intro status refuses
  obtain ⟨⟨e, failed⟩, -⟩ := outcome_of_refusesSize plain kernel path refuses require
  rw [failed] at succeeds
  cases succeeds

/-- To require block devices keeps their lines and fails over every other one. -/
theorem reportOf_require (facilities : Facilities) (allow : Bool) :
    let free := reportOf facilities (asked.withOptions ⟨allow, false⟩) kernel
    let required := reportOf facilities (asked.withOptions ⟨allow, true⟩) kernel
    required.output = free.output.filter Line.ofBlock ∧
      (required.status = 1 ↔
        free.status = 1 ∨ ∃ line ∈ free.output, Line.ofBlock line = false) := by
  intro free required
  have guarded := (outcome_require plain kernel · allow)
  constructor
  · simp only [required, free, reportOf, guarded, toList_bind_guard, List.filter_flatMap]
    rfl
  · simp only [required, free, reportOf_status_one_iff, guarded, isOk_bind_guard]
    simp only [reportOf, List.mem_flatMap]
    constructor
    · rintro ⟨path, among, failed | ⟨line, shown, dropped⟩⟩
      · exact .inl ⟨path, among, failed⟩
      · exact .inr ⟨line, ⟨path, among, shown⟩, dropped⟩
    · rintro (⟨path, among, failed⟩ | ⟨line, ⟨path, among, shown⟩, dropped⟩)
      · exact ⟨path, among, .inl failed⟩
      · exact ⟨path, among, .inr ⟨line, shown, dropped⟩⟩

/-- To allow the fallback leaves every line where it is and makes nothing fail. -/
theorem reportOf_allow (facilities : Facilities) (require : Bool) :
    let without := reportOf facilities (asked.withOptions ⟨false, require⟩) kernel
    let allowed := reportOf facilities (asked.withOptions ⟨true, require⟩) kernel
    without.output.Sublist allowed.output ∧ (allowed.status = 1 → without.status = 1) := by
  intro without allowed
  constructor
  · apply List.Sublist.flatMap_right
    intro path _
    cases shown : outcome (asked.withOptions ⟨false, require⟩) kernel path with
    | error e => exact List.nil_sublist _
    | ok line => rw [outcome_allow plain kernel path require (by rw [shown]; rfl), shown]
  · simp only [allowed, without, reportOf_status_one_iff]
    rintro ⟨path, among, failed⟩
    refine ⟨path, among, Bool.eq_false_iff.mpr ?_⟩
    intro succeeds
    rw [outcome_allow plain kernel path require succeeds, succeeds] at failed
    cases failed

end Outcome

/-- Let a list of arguments without raw codes be accepted, and likewise those that ask for the four
settings of the options besides. Each run prints what its single paths get. To require block devices
keeps the lines of these alone and makes the command fail where it drops one; that is so whether the
fallback is allowed or not. To allow the fallback leaves every line that is printed without it,
makes no path fail, and adds lines for exactly those paths which lead to a block device that refuses
the size request; they show the status size, or zero for a negative one. That is so whether block
devices are required or not. -/
theorem run_filtered_by_options {facilities : Facilities}
    (steady : Backing.Steady facilities.lookup) (escalates : Escalates facilities.escalate)
    (kernel : Kernel) {list : Options → List Bytes} {asked : Arguments}
    (accepted : ∀ options, facilities.read (list options) = .ok (asked.withOptions options))
    (plain : asked.raw = false) (rights : asked.escalate = true → kernel.effectiveUser = 0) :
    let report := fun allow require => run facilities kernel (list ⟨allow, require⟩)
    let treatment := fun allow require path =>
      (treat facilities (asked.withOptions ⟨allow, require⟩) path).run
        (threshold asked.verbosity) kernel
    (∀ allow require,
      (report allow require).output =
        asked.paths.flatMap (fun path => (treatment allow require path).output) ∧
      ((report allow require).status = 1 ↔
        ∃ path ∈ asked.paths, (treatment allow require path).value = true)) ∧
    (∀ allow,
      (report allow true).output = (report allow false).output.filter Line.ofBlock ∧
      ((report allow true).status = 1 ↔
        (report allow false).status = 1 ∨
          ∃ line ∈ (report allow false).output, Line.ofBlock line = false)) ∧
    (∀ require,
      (report false require).output.Sublist (report true require).output ∧
      ((report true require).status = 1 → (report false require).status = 1)) ∧
    ∀ require path,
      ((treatment false require path).value = false →
        (treatment true require path).value = false) ∧
      (∀ status, kernel.RefusesSize path status →
        (treatment false require path).output = [] ∧
        (treatment true require path).output =
          [Utf8.lossy path ++ ": block device, " ++
            Numeral.decimal status.size.toNatClampNeg ++ " bytes"]) ∧
      ((∀ status, ¬ kernel.RefusesSize path status) →
        (treatment true require path).output = (treatment false require path).output) := by
  intro report treatment
  have reports (allow require : Bool) :
      report allow require = reportOf facilities (asked.withOptions ⟨allow, require⟩) kernel :=
    run_of_read (accepted ⟨allow, require⟩) steady (escalates.grants rights)
  have value (allow require : Bool) (path : Bytes) : (treatment allow require path).value =
      !(outcome (asked.withOptions ⟨allow, require⟩) kernel path).isOk :=
    (run_treat steady.toRestores _ kernel path _).1
  have output (allow require : Bool) (path : Bytes) : (treatment allow require path).output =
      (outcome (asked.withOptions ⟨allow, require⟩) kernel path).toOption.toList :=
    treat_output _ _ kernel path steady.toRestores
  refine ⟨?_, ?_, ?_, ?_⟩
  · intro allow require
    simp only [reports, reportOf_status_one_iff, value, output, Bool.not_eq_true']
    exact ⟨rfl, Iff.rfl⟩
  · intro allow
    simp only [reports]
    exact reportOf_require plain kernel facilities allow
  · intro require
    simp only [reports]
    exact reportOf_allow plain kernel facilities require
  · intro require path
    simp only [value, output]
    refine ⟨?_, ?_, ?_⟩
    · intro succeeds
      rw [Bool.not_eq_false'] at succeeds
      rw [outcome_allow plain kernel path require succeeds, succeeds]
      rfl
    · intro status refuses
      obtain ⟨⟨e, failed⟩, shown⟩ := outcome_of_refusesSize plain kernel path refuses require
      rw [failed, shown, Line.plain, FileStatus.length_toNat]
      simp [Except.toOption, DeviceKind.text, String.append_assoc]
    · intro other
      rw [outcome_of_not_refusesSize plain kernel path other]

/-- A file whose name reads like the line of a block device, a disk, and a disk of negative status
size that refuses the size request. With both options the file loses its line and the second disk
has one. -/
theorem run_filtered_despite_misleading_name :
    let name := Utf8.encode "f: block device, 1"
    let disk : FileObject := { mode := 0o060660, sizeReply := .answered 0 (some 512) (by decide) }
    let refusing : FileObject := { mode := 0o060660, size := -1, sizeReply := .refused ⟨25⟩ }
    let kernel := Kernel.ofFiles [(name, { size := 5 }), ([0x64], disk), ([0x72], refusing)]
    let asked : Arguments := { paths := [name, [0x64], [0x72]] }
    let list := fun options => Arguments.spelled ([] ++ Arguments.optionWords options) asked.paths
    Backing.Steady Facilities.standard.lookup ∧ Escalates Facilities.standard.escalate ∧
      (∀ options, Facilities.standard.read (list options) = .ok (asked.withOptions options)) ∧
      asked.raw = false ∧ (asked.escalate = true → kernel.effectiveUser = 0) ∧
      kernel.RefusesSize [0x72] ⟨0o060660, -1⟩ ∧
      (run .standard kernel (list ⟨true, false⟩)).output =
        ["f: block device, 1: not a block device, 5 bytes", "d: block device, 512 bytes",
          "r: block device, 0 bytes"] ∧
      (run .standard kernel (list ⟨true, true⟩)).output =
        ["d: block device, 512 bytes", "r: block device, 0 bytes"] ∧
      (run .standard kernel (list ⟨true, true⟩)).status = 1 ∧
      ((treat .standard (asked.withOptions ⟨false, true⟩) [0x72]).run
        (threshold asked.verbosity) kernel).output = [] := by
  intro name disk refusing kernel asked list
  have steady : Backing.Steady Facilities.standard.lookup := Backing.steady_lookup
  have escalates : Escalates Facilities.standard.escalate := escalates_escalate
  have accepted (options : Options) :
      Facilities.standard.read (list options) = .ok (asked.withOptions options) :=
    Arguments.read_optionWords (by decide) rfl options
  have rights : asked.escalate = true → kernel.effectiveUser = 0 := nofun
  have refuses : kernel.RefusesSize [0x72] ⟨0o060660, -1⟩ := ⟨3, ⟨25⟩, rfl, rfl, by decide, rfl⟩
  obtain ⟨-, required, -, allowed⟩ :=
    run_filtered_by_options steady escalates kernel accepted rfl rights
  have printed : (run .standard kernel (list ⟨true, false⟩)).output =
      ["f: block device, 1: not a block device, 5 bytes", "d: block device, 512 bytes",
        "r: block device, 0 bytes"] := by decide
  refine ⟨steady, escalates, accepted, rfl, rights, refuses, printed, ?_, ?_, ?_⟩
  · rw [(required true).1, printed]
    decide
  · rw [(required true).2, printed]
    exact .inr ⟨_, .head _, by decide⟩
  · exact ((allowed true [0x72]).2.1 _ refuses).1

end Command

end BlockExtent
