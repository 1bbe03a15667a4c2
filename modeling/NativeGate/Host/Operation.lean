namespace NativeGate

inductive Query
  | symbolP
  | stringP
  | isClassId
  | isConstId
  | isInstanceId
  | categoryEnabledP
  | isKindOf
deriving DecidableEq, Repr

def Query.name : Query → String
  | .symbolP => "SYMBOL_P"
  | .stringP => "RB_TYPE_P_STRING"
  | .isClassId => "rb_is_class_id"
  | .isConstId => "rb_is_const_id"
  | .isInstanceId => "rb_is_instance_id"
  | .categoryEnabledP => "rb_warning_category_enabled_p"
  | .isKindOf => "rb_obj_is_kind_of"

inductive Operation
  | ask (query : Query)
  | intern
  | symToId
  | idToSym
  | symToString
  | idToString
  | idAttrset
  | checkSymbol
  | symToS
  | toSymbol
  | checkStringType
  | objAsString
  | inspect
  | freeze
  | coderange
  | arrayNew
  | structDefine
  | structDefineUnder
  | structSize
  | structNew
  | dataDefine
  | verbose
  | warn
  | categoryWarn
  | fatal
  | bug
  | memoryError
  | errinfo
  | setErrinfo
  | standardError
deriving DecidableEq, Repr

namespace Operation

def name : Operation → String
  | .ask query => query.name
  | .intern => "rb_intern"
  | .symToId => "rb_tr_sym2id"
  | .idToSym => "rb_tr_id2sym"
  | .symToString => "rb_sym2str"
  | .idToString => "rb_id2str"
  | .idAttrset => "rb_id_attrset"
  | .checkSymbol => "rb_check_symbol_cstr"
  | .symToS => "rb_sym_to_s"
  | .toSymbol => "rb_to_symbol"
  | .checkStringType => "rb_check_string_type"
  | .objAsString => "rb_obj_as_string"
  | .inspect => "rb_inspect"
  | .freeze => "rb_str_freeze"
  | .coderange => "rb_enc_str_coderange"
  | .arrayNew => "rb_ary_new_from_values"
  | .structDefine => "rb_struct_define"
  | .structDefineUnder => "rb_struct_define_under"
  | .structSize => "rb_struct_size"
  | .structNew => "rb_struct_new_from_values"
  | .dataDefine => "rb_data_define"
  | .verbose => "rb_ruby_verbose"
  | .warn => "rb_warn"
  | .categoryWarn => "rb_category_warn"
  | .fatal => "rb_fatal"
  | .bug => "rb_bug"
  | .memoryError => "rb_memerror"
  | .errinfo => "rb_errinfo"
  | .setErrinfo => "rb_set_errinfo"
  | .standardError => "rb_eStandardError"

def all : List Operation :=
  [.ask .symbolP, .ask .stringP, .ask .isClassId, .ask .isConstId, .ask .isInstanceId,
    .ask .categoryEnabledP, .ask .isKindOf, .intern, .symToId, .idToSym, .symToString, .idToString,
    .idAttrset, .checkSymbol, .symToS, .toSymbol, .checkStringType, .objAsString, .inspect,
    .freeze, .coderange, .arrayNew, .structDefine, .structDefineUnder, .structSize, .structNew,
    .dataDefine, .verbose, .warn, .categoryWarn, .fatal, .bug, .memoryError, .errinfo,
    .setErrinfo, .standardError]

def ofName? (name : String) : Option Operation :=
  all.find? (·.name = name)

end Operation

/-- The one operation that calls back into native code, so the engine answers it, not the host. -/
def yieldName : String := "rb_yield_values"

end NativeGate
