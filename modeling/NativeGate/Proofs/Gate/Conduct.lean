import NativeGate.Gate.Blocks
import NativeGate.Gate.Protected
import NativeGate.Gate.Records
import NativeGate.Gate.Reports
import NativeGate.Gate.Strings
import NativeGate.Proofs.Format.Closure
import NativeGate.Proofs.Gate.Closure
import NativeGate.Proofs.Gate.Permits

namespace NativeGate

/-! What calls through the gate do: they advance engines and leave the context alone. -/

open Engine Native Proc Trailing

variable {α β ω : Type} {R : Gate β ω → Gate β ω → Prop} [Gate.Admits R]

namespace Symbols

theorem checkId_respects (raw : UInt64) : (checkId raw : Native β ω Id).Respects R := by
  unfold checkId
  split
  · exact .throw _
  · exact .pure _

theorem respects_closed :
    Closed (β := β) (ω := ω) (fun p => p.Respects Acts) fun p => p.Respects R where
  pure a := .pure a
  bind first rest := first.bind rest
  perform op _ args := perform_respects op args
  ask query args := ask_respects query args
  newString bytes encoding := newString_respects bytes encoding
  readString string := readString_respects string
  failWith kind message := failWith_respects kind message
  through respects := onEngine_respects respects
  returned a := .pure a
  followed first rest := first.bind rest

end Symbols

namespace Strings

theorem encodingOf_respects (pointer : EncodingPointer) :
    (encodingOf pointer : Native β ω Encoding).Respects R := by
  unfold encodingOf
  split
  · exact .pure _
  · exact .throw _

theorem ofLiteral_respects (bytes : Bytes) (pointer : EncodingPointer) :
    (ofLiteral bytes pointer : Native β ω Value).Respects R :=
  engineNumber_respects.bind fun number => (encodingOf_respects pointer).bind fun _ =>
    atEngine_respects (newString_respects _ _) number

theorem frozenLiteral_respects (bytes : Bytes) (pointer : EncodingPointer) :
    (frozenLiteral bytes pointer : Native β ω Value).Respects R :=
  (ofLiteral_respects bytes pointer).bind fun _ =>
    onEngine_respects ((perform_respects _ _).bind fun _ =>
      (perform_respects _ _).bind fun _ => .pure _)

end Strings

namespace Allocation

theorem checkedSize_respects (count elementSize : UInt64) :
    (checkedSize count elementSize : Native β ω Nat).Respects R := by
  unfold checkedSize
  split
  · exact .pure _
  · exact .throw _

theorem outOfMemory_respects : (outOfMemory : Native β ω α).Respects R := by
  refine Respects.get.bind fun gate => ?_
  cases gate.context.current? with
  | none => exact .throw _
  | some scope =>
      refine (atEngine_respects (perform_respects _ _) _).catchFault.bind fun answer => ?_
      rcases answer with fault | v
      · cases fault <;> exact .throw _
      · exact .throw _

theorem orOutOfMemory_respects (request : Memory → Option (Address × Memory)) :
    (orOutOfMemory request : Native β ω Address).Respects R := by
  refine Respects.get.bind fun gate => ?_
  rcases request gate.memory with _ | ⟨address, memory⟩
  · exact outOfMemory_respects
  · exact (Respects.modify fun gate => Gate.Admits.setAside gate memory gate.program).bind
      fun _ => .pure _

theorem release_respects (address : Address) : (release address : Native β ω Unit).Respects R :=
  Respects.modify fun gate => Gate.Admits.setAside gate _ gate.program

theorem reserveWords_respects (count : Nat) (allocator : Allocator) :
    (reserveWords count allocator : Native β ω Unit).Respects R := by
  unfold reserveWords
  split
  · exact .throw _
  · refine Respects.get.bind fun gate => ?_
    split
    · exact .pure _
    · exact .throw _

theorem allocateScratch_respects (length : Int) :
    (allocateScratch length : Native β ω Value).Respects R := by
  unfold allocateScratch
  split
  · exact .throw _
  · exact (orOutOfMemory_respects _).bind fun _ => .pure _

theorem releaseScratch_respects (slot : Value) :
    (releaseScratch slot : Native β ω Value).Respects R :=
  (release_respects slot.bits).bind fun _ => .pure _

end Allocation

namespace Format

theorem respects_closed :
    Closed (β := β) fun p => p.Respects (OnState Acts) where
  pure a := .pure a
  bind first rest := first.bind rest
  read kind := onCursor_respects _
  value flags v := by
    refine onState_respects ?_
    split
    · exact inspect_respects v
    · exact textOf_respects v
  malformed message := onState_respects (failWith_respects _ _)
  tooPrecise := .throw _

theorem render_respects (format : Bytes) :
    (render format : Trailing (Engine β) Bytes).Respects (OnState Acts) :=
  respects_closed.render format

end Format

namespace Reports

theorem message_respects (format : Bytes) :
    (message format : Trailing (Engine β) Value).Respects (OnState Acts) :=
  (Format.render_respects format).bind fun _ => onState_respects (newString_respects _ _)

theorem warn_respects (format : Bytes) :
    (warn format : Variadic β ω Unit).Respects (OnState R) :=
  Variadic.onEngine_respects <| (message_respects format).bind fun _ =>
    (onState_respects (perform_respects _ _)).bind fun _ => .pure _

theorem warnOf_respects (category : WarningCategory) (format : Bytes) :
    (warnOf category format : Variadic β ω Unit).Respects (OnState R) :=
  Variadic.onEngine_respects <| (message_respects format).bind fun _ =>
    (onState_respects (perform_respects _ _)).bind fun _ => .pure _

theorem verbosity_respects : (verbosity : Native β ω Value).Respects R :=
  raising_respects (onEngine_respects (perform_respects _ _))

theorem isEnabled_respects (category : WarningCategory) :
    (isEnabled category : Native β ω Bool).Respects R :=
  raising_respects (onEngine_respects (ask_respects _ _))

theorem warnUnlessSilent_respects (format : Bytes) :
    (warnUnlessSilent format : Variadic β ω Unit).Respects (OnState R) := by
  refine (onState_respects verbosity_respects).bind fun verbosity => ?_
  split
  · exact .pure _
  · exact Variadic.raising_respects (warn_respects format)

theorem warnIfVerbose_respects (format : Bytes) :
    (warnIfVerbose format : Variadic β ω Unit).Respects (OnState R) := by
  refine (onState_respects verbosity_respects).bind fun verbosity => ?_
  split
  · exact Variadic.raising_respects (warn_respects format)
  · exact .pure _

theorem warnIfEnabled_respects (category : WarningCategory) (format : Bytes) :
    (warnIfEnabled category format : Variadic β ω Unit).Respects (OnState R) := by
  refine (onState_respects verbosity_respects).bind fun verbosity => ?_
  split
  · exact .pure _
  · refine (onState_respects (isEnabled_respects category)).bind fun enabled => ?_
    split
    · exact Variadic.raising_respects (warnOf_respects category format)
    · exact .pure _

theorem fatalException_respects (format : Bytes) :
    (fatalException format : Variadic β ω Value).Respects (OnState R) := by
  refine Variadic.onEngine_respects <| (message_respects format).bind fun _ =>
    onState_respects <| (perform_respects _ _).catchFault.bind fun answer => ?_
  rcases answer with fault | v
  · cases fault with
    | raised exception => exact .pure _
    | _ => exact .throw _
  · exact (readString_respects _).bind fun _ => newException_respects _ _

theorem unformattedFatal_respects (format : Bytes) :
    (unformattedFatal format : Native β ω Value).Respects R := by
  refine Respects.get.bind fun gate => ?_
  cases gate.context.current? with
  | some scope => exact atEngine_respects (newException_respects _ _) _
  | none => exact .throw _

theorem fatal_respects (format : Bytes) :
    (fatal format : Variadic β ω α).Respects (OnState R) := by
  refine (fatalException_respects format).catchFault.bind fun result => ?_
  cases result with
  | ok exception => exact .throw _
  | error fault =>
      exact (onState_respects (unformattedFatal_respects format)).bind fun _ => .throw _

theorem bugReport_respects (format : Bytes) :
    (bugReport format : Variadic β ω Bytes).Respects (OnState R) :=
  Variadic.onEngine_respects <| (Format.render_respects format).bind fun _ =>
    onState_respects <| (newString_respects _ _).bind fun _ =>
      (perform_respects _ _).bind fun _ => .pure _

theorem bug_respects (format : Bytes) : (bug format : Variadic β ω α).Respects (OnState R) := by
  refine (bugReport_respects format).catchFault.bind fun result => ?_
  cases result <;>
    refine (Respects.pure _).bind fun report =>
      (onState_respects (Respects.get.bind fun _ => .pure _)).bind fun settings => ?_ <;>
    cases settings.bugAction <;> exact .throw _

end Reports

namespace Records

theorem readMembersWithin_respects (fuel : Nat) :
    (readMembersWithin fuel : Variadic β ω (List Value)).Respects (OnState R) := by
  induction fuel with
  | zero => exact .pure _
  | succ fuel ih =>
      refine (onCursor_respects _).bind fun name => ?_
      cases name with
      | none => exact .pure _
      | some name =>
          exact (onState_respects (Symbols.respects_closed.intern _ _)).bind fun _ =>
            ih.bind fun _ => .pure _

theorem readMembers_respects : (readMembers : Variadic β ω (List Value)).Respects (OnState R) :=
  (onCursor_respects _).bind fun _ => readMembersWithin_respects _

theorem newArray_respects (n : Int) : (newArray n : Variadic β ω Value).Respects (OnState R) :=
  (onCursor_respects _).bind fun _ => onState_respects (onEngine_respects (perform_respects _ _))

theorem utf8Name_respects (name : Option Bytes) :
    (utf8Name name : Proc (Engine β) Value).Respects Acts := by
  cases name with
  | some name => exact newString_respects _ _
  | none => exact .pure _

theorem define_respects (name : Option Bytes) :
    (define name : Variadic β ω Value).Respects (OnState R) :=
  readMembers_respects.bind fun _ => onState_respects <| onEngine_respects <|
    (utf8Name_respects name).bind fun _ => (perform_respects _ _).bind fun _ => perform_respects _ _

theorem defineUnder_respects (scope : Value) (name : Bytes) :
    (defineUnder scope name : Variadic β ω Value).Respects (OnState R) :=
  readMembers_respects.bind fun _ => onState_respects <| onEngine_respects <|
    (newString_respects _ _).bind fun _ => (perform_respects _ _).bind fun _ => perform_respects _ _

theorem defineData_respects (superclass : Value) :
    (defineData superclass : Variadic β ω Value).Respects (OnState R) :=
  readMembers_respects.bind fun _ => onState_respects <| onEngine_respects <|
    (perform_respects _ _).bind fun _ => perform_respects _ _

theorem newRecord_respects (definition : Value) (allocator : Allocator) :
    (newRecord definition allocator : Variadic β ω Value).Respects (OnState R) :=
  (onState_respects engineNumber_respects).bind fun _ =>
    (onState_respects (atEngine_respects (perform_respects _ _) _)).bind fun _ =>
      (onState_respects (Allocation.reserveWords_respects _ _)).bind fun _ =>
        (onCursor_respects _).bind fun _ =>
          onState_respects (atEngine_respects (perform_respects _ _) _)

end Records

namespace Blocks

theorem withBlockOn_respects {S : Gate β ω → Gate β ω → Prop} [Gate.Permits S] (number : Nat)
    (block : β) {body : Native β ω α} (respects : body.Respects S) :
    (withBlockOn number block body).Respects S := by
  have changes {change : Engine β → Engine β}
      (advances : ∀ engine : Engine β, engine.Advances (change engine)) :
      (Native.atEngine number (modify change) : Native β ω Unit).Respects S :=
    Respects.zoom (Respects.modify advances) fun gate _ => Gate.Permits.setEngine gate number
  have pushes : (Native.atEngine number (modify (·.pushBlock block))).Respects S :=
    changes fun engine => ⟨.refl _, id⟩
  have pops : (Native.atEngine number (modify (·.popBlock))).Respects S :=
    changes fun engine => ⟨.refl _, id⟩
  exact pushes.bind fun _ => respects.ensuring pops

theorem startYield_respects : (startYield : Proc (Engine β) (Value ⊕ β)).Respects Acts := by
  refine unlessPinned_respects ?_ _ _
  have notes : (modify fun engine => { engine with host := engine.host.note yieldName } :
      Proc (Engine β) Unit).Respects Acts :=
    .modify fun engine => ⟨engine.host.leads_act (.yield true), rfl⟩
  refine notes.bind fun _ => Respects.get.bind fun engine => ?_
  cases engine.block? with
  | some block => exact .pure _
  | none => exact failWith_respects _ _

section Calling

variable {call : Caller β ω} (calls : ∀ block args, (call block args).Respects R)

include calls

theorem yield_respects (args : List Value) : (yield call args).Respects R := by
  refine (onEngine_respects startYield_respects).bind fun found => ?_
  cases found with
  | inl v => exact .pure _
  | inr block => exact calls block args

theorem yieldValues_respects (n : Int) : (yieldValues call n).Respects (OnState R) :=
  (onCursor_respects _).bind fun _ => onState_respects (yield_respects calls _)

end Calling

end Blocks

namespace Protected

theorem isAnyOf_respects (exception : Value) (classes : List Value) :
    (isAnyOf exception classes : Proc (Engine β) Bool).Respects Acts := by
  induction classes with
  | nil => exact .pure _
  | cons definition rest ih =>
      refine (ask_respects _ _).bind fun isOne => ?_
      cases isOne with
      | true => exact .pure _
      | false => exact ih

theorem setErrinfo_respects (number : Nat) (v : Value) :
    (setErrinfo number v : Native β ω Unit).Respects R :=
  (atEngine_respects (perform_respects _ _) _).bind fun _ => .pure _

theorem exceptionOfState_respects (state : Int) :
    (exceptionOfState state : Native β ω Value).Respects R := by
  refine onEngine_respects ((perform_respects _ _).bind fun errinfo => ?_)
  split
  · exact failWith_respects _ _
  · exact .pure _

theorem jump_respects (state : Int) : (jump state : Native β ω α).Respects R :=
  (raising_respects (exceptionOfState_respects state)).bind fun _ => .throw _

section Protecting

variable {body : Native β ω Value} (respects : body.Respects R)

include respects

theorem ensure_respects {cleanup : Native β ω Value} (cleans : cleanup.Respects R) :
    (ensure body cleanup).Respects R :=
  respects.ensuring (cleans.bind fun _ => .pure _)

theorem protectInto_respects (cell : Option (StateCell ω)) :
    (protectInto cell body).Respects R := by
  have protects : (protect body).Respects R := by
    refine respects.catchRaise.bind fun result => ?_
    cases result with
    | ok v => exact .pure _
    | error exception => exact (onEngine_respects (perform_respects _ _)).bind fun _ => .pure _
  refine (raising_respects protects).bind fun (v, state) => ?_
  cases cell with
  | none => exact .pure v
  | some cell =>
      exact (Respects.modify fun gate => Gate.Admits.setAside gate gate.memory _).bind
        fun _ => .pure _

variable {handler : Option (Value → Native β ω Value)}
  (handles : ∀ given ∈ handler, ∀ exception, (given exception).Respects R)

include handles

theorem rescueAny_respects (classes : List Value) :
    (rescueAny classes body handler).Respects R := by
  refine respects.catchRaise.bind fun result => ?_
  cases result with
  | ok v => exact .pure _
  | error exception =>
      refine engineNumber_respects.bind fun number =>
        (atEngine_respects (isAnyOf_respects _ _) _).bind fun isMatch => ?_
      cases isMatch with
      | false => exact .throw _
      | true =>
          cases handler with
          | none => exact .pure _
          | some handler =>
              have restores (saved : Value) :
                  (restoreErrinfo number saved : Native β ω Unit).Respects R :=
                (setErrinfo_respects number saved).catchFault.bind fun _ => .pure _
              refine (atEngine_respects (perform_respects _ _) _).bind fun saved =>
                (setErrinfo_respects number exception).bind fun _ =>
                  ((handles handler rfl exception).catchRaise.ensuring (restores saved)).bind
                    fun result => ?_
              cases result with
              | ok v => exact .pure _
              | error raised => exact .throw _

theorem rescue_respects : (rescue body handler).Respects R :=
  (onEngine_respects (perform_respects _ _)).bind fun _ => rescueAny_respects respects handles _

theorem rescueListed_respects : (rescueListed body handler).Respects (OnState R) :=
  (onCursor_respects _).bind fun _ => onState_respects (rescueAny_respects respects handles _)

end Protecting

end Protected

end NativeGate
