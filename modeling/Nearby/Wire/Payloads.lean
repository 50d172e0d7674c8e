import Nearby.Wire.Offers
import Mathlib.Data.List.Infix

/-! The verdict of `validator.rs` on payload transfers, against a specification of its own. -/

namespace Nearby

open Proto PayloadTransfer

namespace Validator

/-! ### Specification -/

def IsPacket (frame : PayloadTransferFrame) (p : PacketType) : Prop :=
  frame.packetType = some p.number

instance : Decidable (IsPacket frame p) := inferInstanceAs (Decidable (_ = _))

/-- The header gives a size: a length, or `-1` for one that is not known yet. -/
def Sized (header : PayloadHeader) (size : Int64) : Prop :=
  header.totalSize = some size ∧ (0 ≤ size ∨ size = -1)

/-- A file whose name or folder may lead out of the folder it is saved in. -/
def Escaping (header : PayloadHeader) : Prop :=
  header.type = some payloadTypeFile ∧
    ((∃ name, header.fileName = some name ∧
        (':' ∈ name.toList ∨ '/' ∈ name.toList ∨ '\\' ∈ name.toList)) ∨
      ∃ folder, header.parentFolder = some folder ∧
        (':' ∈ folder.toList ∨ ['.', '.'] <:+: folder.toList))

def Within (offset : Option Int64) (size : Int64) : Prop :=
  ∃ n, offset = some n ∧ 0 ≤ n ∧ (size = -1 ∨ n ≤ size)

structure DataWellFormed (chunk : PayloadChunk) (size : Int64) : Prop where
  content : ∃ flags, chunk.flags = some flags ∧ (chunk.body ≠ none ∨ flags &&& lastChunk ≠ 0)
  offset : Within chunk.offset size

structure PacketWellFormed (frame : PayloadTransferFrame) (size : Int64) : Prop where
  known : ∃ p, IsPacket frame p
  data : IsPacket frame .data →
    ∃ chunk, frame.payloadChunk = some chunk ∧ DataWellFormed chunk size
  control : IsPacket frame .control →
    ∃ control, frame.controlMessage = some control ∧ Within control.offset size

/-- A header of an acknowledgement is not looked at. -/
def Acknowledges (frame : PayloadTransferFrame) : Prop :=
  frame.payloadHeader ≠ none ∧ IsPacket frame .payloadAck

def NamesEscape (frame : PayloadTransferFrame) : Prop :=
  ∃ header size, frame.payloadHeader = some header ∧ ¬ IsPacket frame .payloadAck ∧
    Sized header size ∧ Escaping header

def TransferWellFormed (frame : PayloadTransferFrame) : Prop :=
  ∃ header size, frame.payloadHeader = some header ∧ Sized header size ∧
    PacketWellFormed frame size

/-! ### The checks -/

theorem tryFrom_packetType_iff {frame : PayloadTransferFrame} {p : PacketType} :
    frame.packetType.bind PacketType.tryFrom = some p ↔ IsPacket frame p := by
  have hinj : Function.Injective PacketType.number := by
    intro a b h
    cases a <;> cases b <;> first | rfl | exact absurd h (by decide)
  rw [IsPacket, Option.bind_eq_some_iff]
  constructor
  · rintro ⟨v, hv, hp⟩
    unfold PacketType.tryFrom tryFromNumber at hp
    have hnumber := List.find?_some hp
    simp only [decide_eq_true_eq] at hnumber
    rw [hv, hnumber]
  · intro h
    exact ⟨_, h, tryFromNumber_number hinj (by cases p <;> decide)⟩

theorem hasIllegalCharacters_iff {text : String} {patterns : List String}
    (hpatterns : "" ∉ patterns) :
    hasIllegalCharacters text patterns = true ↔ ∃ p ∈ patterns, p.toList <:+: text.toList := by
  rw [hasIllegalCharacters]
  split
  case isTrue hempty =>
    refine iff_of_false (by simp) ?_
    rintro ⟨p, hp, hcontains⟩
    rw [hempty, String.toList_empty, List.infix_nil, String.toList_eq_nil_iff] at hcontains
    exact hpatterns (hcontains ▸ hp)
  case isFalse => simp [List.any_eq_true]

theorem escaping_iff (header : PayloadHeader) :
    (header.type = some payloadTypeFile ∧
      (header.fileName.any (hasIllegalCharacters · illegalFileNamePatterns) ∨
        header.parentFolder.any (hasIllegalCharacters · illegalParentFolderPatterns))) ↔
    Escaping header := by
  have hname : "" ∉ illegalFileNamePatterns := by decide
  have hfolder : "" ∉ illegalParentFolderPatterns := by decide
  simp only [Option.any_eq_true, hasIllegalCharacters_iff hname, hasIllegalCharacters_iff hfolder,
    Escaping]
  simp [illegalFileNamePatterns, illegalParentFolderPatterns, List.singleton_infix_iff]

theorem sized_iff (header : PayloadHeader) :
    (header.totalSize.isNone ∨
      (header.totalSize.getD 0 < 0 ∧ header.totalSize.getD 0 ≠ indeterminateSize)) ↔
    ¬ Sized header (header.totalSize.getD 0) := by
  cases hsize : header.totalSize with
  | none => simp [Sized, hsize]
  | some size =>
    simp only [Sized, hsize, indeterminateSize, Option.isNone_some, Option.getD_some, true_and,
      not_or, Int64.not_le, Bool.false_eq_true, false_or, ne_eq]

theorem within_iff (offset : Option Int64) (size : Int64) :
    (if offset.isNone ∨ offset.getD 0 < 0 then Exception.invalidProtocolBuffer
      else if size ≠ indeterminateSize ∧ size < offset.getD 0 then .invalidProtocolBuffer
      else .success) = .success ↔ Within offset size := by
  rw [check_iff, check_iff]
  cases offset with
  | none => simp [Within]
  | some n =>
    simp only [Within, indeterminateSize, Option.isNone_some, Option.getD_some, Option.some.injEq,
      exists_eq_left', Bool.false_eq_true, false_or, Int64.not_lt, not_and, and_true]
    rw [← Classical.or_iff_not_imp_left]

theorem ensureValidPayloadTransferControlFrame_iff (control : ControlMessage) (size : Int64) :
    ensureValidPayloadTransferControlFrame control size = .success ↔ Within control.offset size :=
  within_iff control.offset size

theorem ensureValidPayloadTransferDataFrame_iff (chunk : PayloadChunk) (size : Int64) :
    ensureValidPayloadTransferDataFrame chunk size = .success ↔ DataWellFormed chunk size := by
  rw [ensureValidPayloadTransferDataFrame, check_iff]
  dsimp only
  rw [check_iff, within_iff]
  constructor
  · rintro ⟨hflags, hbody, hoffset⟩
    obtain ⟨flags, hflags⟩ := Option.ne_none_iff_exists'.mp (by simpa using hflags)
    refine ⟨⟨flags, hflags, ?_⟩, hoffset⟩
    rw [hflags, Option.getD_some, Option.isNone_iff_eq_none] at hbody
    tauto
  · rintro ⟨⟨flags, hflags, hbody⟩, hoffset⟩
    refine ⟨by simp [hflags], ?_, hoffset⟩
    rw [hflags, Option.getD_some, Option.isNone_iff_eq_none]
    tauto

theorem ensureValidPayloadTransferControlFrame_or (control : ControlMessage) (size : Int64) :
    ensureValidPayloadTransferControlFrame control size = .success ∨
      ensureValidPayloadTransferControlFrame control size = .invalidProtocolBuffer := by
  rw [ensureValidPayloadTransferControlFrame]
  split_ifs <;> simp

theorem ensureValidPayloadTransferDataFrame_or (chunk : PayloadChunk) (size : Int64) :
    ensureValidPayloadTransferDataFrame chunk size = .success ∨
      ensureValidPayloadTransferDataFrame chunk size = .invalidProtocolBuffer := by
  rw [ensureValidPayloadTransferDataFrame]
  dsimp only
  split_ifs <;> simp

theorem required_or {sub : Option M} {check : M → Exception}
    (h : ∀ m, check m = .success ∨ check m = .invalidProtocolBuffer) :
    required sub check = .success ∨ required sub check = .invalidProtocolBuffer := by
  cases sub with
  | none => exact .inr rfl
  | some m => exact h m

def packetVerdict (frame : PayloadTransferFrame) (size : Int64) : Exception :=
  match frame.packetType.bind PacketType.tryFrom with
  | none => .invalidProtocolBuffer
  | some .data => required frame.payloadChunk (ensureValidPayloadTransferDataFrame · size)
  | some .control => required frame.controlMessage (ensureValidPayloadTransferControlFrame · size)
  | some _ => .success

theorem packetVerdict_or (frame : PayloadTransferFrame) (size : Int64) :
    packetVerdict frame size = .success ∨ packetVerdict frame size = .invalidProtocolBuffer := by
  rw [packetVerdict]
  split
  case h_1 => exact .inr rfl
  case h_2 => exact required_or fun chunk => ensureValidPayloadTransferDataFrame_or chunk size
  case h_3 =>
    exact required_or fun control => ensureValidPayloadTransferControlFrame_or control size
  case h_4 => exact .inl rfl

theorem IsPacket.unique {frame : PayloadTransferFrame} {p q : PacketType} (hp : IsPacket frame p)
    (hq : IsPacket frame q) : p = q := by
  rw [← tryFrom_packetType_iff] at hp hq
  exact Option.some.inj (hp.symm.trans hq)

theorem packetVerdict_iff (frame : PayloadTransferFrame) (size : Int64) :
    packetVerdict frame size = .success ↔ PacketWellFormed frame size := by
  cases hpacket : frame.packetType.bind PacketType.tryFrom with
  | none =>
    rw [packetVerdict, hpacket]
    refine iff_of_false nofun fun h => ?_
    obtain ⟨p, hp⟩ := h.known
    cases hpacket.symm.trans (tryFrom_packetType_iff.mpr hp)
  | some p =>
    have hp : IsPacket frame p := tryFrom_packetType_iff.mp hpacket
    have hwf : PacketWellFormed frame size ↔
        (p = .data → ∃ chunk, frame.payloadChunk = some chunk ∧ DataWellFormed chunk size) ∧
        (p = .control →
          ∃ control, frame.controlMessage = some control ∧ Within control.offset size) := by
      constructor
      · intro h
        exact ⟨fun hd => h.data (hd ▸ hp), fun hc => h.control (hc ▸ hp)⟩
      · rintro ⟨hdata, hcontrol⟩
        exact ⟨⟨p, hp⟩, fun hd => hdata (hp.unique hd), fun hc => hcontrol (hp.unique hc)⟩
    rw [packetVerdict, hpacket, hwf]
    cases p with
    | unknownPacketType => simp
    | payloadAck => simp
    | data => simp [required_iff, ensureValidPayloadTransferDataFrame_iff]
    | control => simp [required_iff, ensureValidPayloadTransferControlFrame_iff]

/-! ### The verdict -/

section Transfer

variable {frame : PayloadTransferFrame} {header : PayloadHeader}

theorem ensureValidPayloadTransferFrame_ack (h : Acknowledges frame) :
    ensureValidPayloadTransferFrame frame = .success := by
  obtain ⟨header, hheader⟩ := Option.ne_none_iff_exists'.mp h.1
  rw [ensureValidPayloadTransferFrame, hheader]
  dsimp only
  rw [tryFrom_packetType_iff.mpr h.2]
  rfl

theorem ensureValidPayloadTransferFrame_eq (hheader : frame.payloadHeader = some header)
    (hack : ¬ IsPacket frame .payloadAck) :
    ensureValidPayloadTransferFrame frame =
      if header.totalSize.isNone ∨
          (header.totalSize.getD 0 < 0 ∧ header.totalSize.getD 0 ≠ indeterminateSize) then
        .invalidProtocolBuffer
      else if header.type = some payloadTypeFile ∧
          (header.fileName.any (hasIllegalCharacters · illegalFileNamePatterns) ∨
            header.parentFolder.any (hasIllegalCharacters · illegalParentFolderPatterns)) then
        .illegalCharacters
      else packetVerdict frame (header.totalSize.getD 0) := by
  rw [← tryFrom_packetType_iff] at hack
  rw [ensureValidPayloadTransferFrame, packetVerdict, hheader]
  dsimp only
  cases hpacket : frame.packetType.bind PacketType.tryFrom with
  | none => rfl
  | some p =>
    cases p with
    | payloadAck => exact absurd hpacket hack
    | unknownPacketType => rfl
    | data => cases frame.payloadChunk <;> rfl
    | control => cases frame.controlMessage <;> rfl

theorem ensureValidPayloadTransferFrame_unsized (hheader : frame.payloadHeader = some header)
    (hack : ¬ IsPacket frame .payloadAck) (hsize : ∀ size, ¬ Sized header size) :
    ensureValidPayloadTransferFrame frame = .invalidProtocolBuffer := by
  rw [ensureValidPayloadTransferFrame_eq hheader hack, if_pos ((sized_iff header).mpr (hsize _))]

theorem ensureValidPayloadTransferFrame_escaping (h : NamesEscape frame) :
    ensureValidPayloadTransferFrame frame = .illegalCharacters := by
  obtain ⟨header, size, hheader, hack, hsize, hescape⟩ := h
  have hgetD : header.totalSize.getD 0 = size := by rw [hsize.1, Option.getD_some]
  rw [ensureValidPayloadTransferFrame_eq hheader hack,
    if_neg fun hnot => (sized_iff header).mp hnot (hgetD ▸ hsize),
    if_pos ((escaping_iff header).mpr hescape)]

theorem ensureValidPayloadTransferFrame_sized {size : Int64}
    (hheader : frame.payloadHeader = some header) (hack : ¬ IsPacket frame .payloadAck)
    (hescape : ¬ NamesEscape frame) (hsize : Sized header size) :
    ensureValidPayloadTransferFrame frame = packetVerdict frame size := by
  have hgetD : header.totalSize.getD 0 = size := by rw [hsize.1, Option.getD_some]
  rw [ensureValidPayloadTransferFrame_eq hheader hack, hgetD,
    if_neg fun hnot => (sized_iff header).mp (hgetD ▸ hnot) (hgetD ▸ hsize),
    if_neg fun hbad => hescape ⟨header, size, hheader, hack, hsize, (escaping_iff header).mp hbad⟩]

theorem ensureValidPayloadTransferFrame_iff (hack : ¬ Acknowledges frame)
    (hescape : ¬ NamesEscape frame) :
    (TransferWellFormed frame → ensureValidPayloadTransferFrame frame = .success) ∧
      (¬ TransferWellFormed frame →
        ensureValidPayloadTransferFrame frame = .invalidProtocolBuffer) := by
  have hpacket {header} (hheader : frame.payloadHeader = some header) :
      ¬ IsPacket frame .payloadAck := fun hp => hack ⟨by simp [hheader], hp⟩
  constructor
  · rintro ⟨header, size, hheader, hsize, hwf⟩
    rw [ensureValidPayloadTransferFrame_sized hheader (hpacket hheader) hescape hsize]
    exact (packetVerdict_iff frame size).mpr hwf
  · intro hbad
    cases hheader : frame.payloadHeader with
    | none => rw [ensureValidPayloadTransferFrame, hheader]
    | some header =>
      by_cases hsize : ∃ size, Sized header size
      · obtain ⟨size, hsize⟩ := hsize
        rw [ensureValidPayloadTransferFrame_sized hheader (hpacket hheader) hescape hsize]
        refine (packetVerdict_or frame size).resolve_left fun hok => hbad ?_
        exact ⟨header, size, hheader, hsize, (packetVerdict_iff frame size).mp hok⟩
      · exact ensureValidPayloadTransferFrame_unsized hheader (hpacket hheader)
          (not_exists.mp hsize)

end Transfer

def Carries (frame : OfflineFrame) (transfer : PayloadTransferFrame) : Prop :=
  ∃ v1, frame.version = some versionV1 ∧ frame.v1 = some v1 ∧
    v1.type = some V1.FrameType.payloadTransfer.number ∧ v1.payloadTransfer = some transfer

theorem ensureValidOfflineFrame_carries {frame : OfflineFrame} {transfer : PayloadTransferFrame}
    (h : Carries frame transfer) :
    ensureValidOfflineFrame frame = ensureValidPayloadTransferFrame transfer := by
  obtain ⟨v1, hversion, hv1, htype, hsub⟩ := h
  have hframe : getFrameType frame = .payloadTransfer := by
    rw [getFrameType, if_pos hversion, hv1]
    dsimp only
    rw [htype]
    rfl
  rw [ensureValidOfflineFrame, hframe]
  dsimp only
  rw [hv1, Option.bind_some, hsub]
  rfl

/-- The verdict on a payload transfer: the checks' order shows only in that an acknowledgement
passes unseen and a bad name is reported before a bad packet. -/
theorem payloadTransfer_verdict {frame : OfflineFrame} {transfer : PayloadTransferFrame}
    (h : Carries frame transfer) :
    (Acknowledges transfer → ensureValidOfflineFrame frame = .success) ∧
    (ensureValidOfflineFrame frame = .illegalCharacters ↔ NamesEscape transfer) ∧
    (¬ Acknowledges transfer → (ensureValidOfflineFrame frame = .success ↔
      ¬ NamesEscape transfer ∧ TransferWellFormed transfer)) ∧
    (ensureValidOfflineFrame frame = .invalidProtocolBuffer ↔ ¬ Acknowledges transfer ∧
      ¬ NamesEscape transfer ∧ ¬ TransferWellFormed transfer) := by
  rw [ensureValidOfflineFrame_carries h]
  by_cases hack : Acknowledges transfer
  · have hescape : ¬ NamesEscape transfer := fun ⟨_, _, _, hnot, _⟩ => hnot hack.2
    simp [ensureValidPayloadTransferFrame_ack hack, hack, hescape]
  · by_cases hescape : NamesEscape transfer
    · simp [ensureValidPayloadTransferFrame_escaping hescape, hack, hescape]
    · obtain ⟨hgood, hbad⟩ := ensureValidPayloadTransferFrame_iff hack hescape
      by_cases hwf : TransferWellFormed transfer
      · simp [hgood hwf, hack, hescape, hwf]
      · simp [hbad hwf, hack, hescape, hwf]

/-- A file of one byte that names a folder above its own; its chunk is missing as well. -/
def strayFile : PayloadTransferFrame where
  packetType := some PacketType.data.number
  payloadHeader := some {
    type := some payloadTypeFile, totalSize := some 1, fileName := some "a"
    parentFolder := some "../b" }

def strayFileFrame : OfflineFrame :=
  encodeV1 .payloadTransfer fun v1 => { v1 with payloadTransfer := some strayFile }

theorem payloadTransfer_verdict_strayFile :
    Carries strayFileFrame strayFile ∧ ¬ TransferWellFormed strayFile ∧
      ensureValidOfflineFrame strayFileFrame = .illegalCharacters := by
  have hcarries : Carries strayFileFrame strayFile := ⟨_, rfl, rfl, rfl, rfl⟩
  refine ⟨hcarries, ?_, (payloadTransfer_verdict hcarries).2.1.mpr ?_⟩
  · rintro ⟨_, _, -, -, hpacket⟩
    obtain ⟨_, hchunk, -⟩ := hpacket.data rfl
    cases hchunk
  · exact ⟨_, 1, rfl, by decide, ⟨rfl, .inl (by decide)⟩, rfl, .inr ⟨_, rfl, .inr (by decide)⟩⟩

end Validator

end Nearby
