import FrontEnd.Outline.Token
import FrontEnd.Typing.Layout
import FrontEnd.Typing.Overload
import FrontEnd.Typing.Report
import FrontEnd.Typing.Specialization

/-!
Outlines of types, definitions, templates and type errors.
-/

namespace FrontEnd

instance : Coe DefId Outline := ⟨fun id => id.index⟩

instance : Coe TemplateId Outline := ⟨fun id => id.index⟩

def TypeId.outline (ty : TypeId) : Outline :=
  .record [("shard", ty.shard), ("local", ty.slot), ("raw", ty.index),
    ("primitive", ty.isPrimitive), ("error", ty.isError),
    ("name", .opt .text ty.primitiveName?), ("debug", ty.dump)]

def TypeForm.outline : TypeForm → Outline
  | .void => .list ["Void"]
  | .bool => .list ["Bool"]
  | .int bits signed => .list ["Int", bits, signed]
  | .float bits => .list ["Float", bits]
  | .nominal kind id => .list ["Nominal", kind.keyword, id]
  | .pointer target => .list ["Pointer", target]
  | .array element length => .list ["Array", element, .wide length]
  | .slice element => .list ["Slice", element]
  | .function parameters result variadic =>
    .list ["Function", .each .type parameters, result, variadic]
  | .qualified base quals => .list ["Qualified", base, quals.text]
  | .param template index => .list ["Param", template, index]
  | .error => .list ["Error"]

def TemplateArgument.outline : TemplateArgument → Outline
  | .type ty => ty
  | .value constant => constant.text
  | .template id => .record [("template", id)]

def Member.outline (member : Member) : Outline := .list [member.name, member.type]

def EnumConstant.outline (constant : EnumConstant) : Outline :=
  .list [constant.name, .wide constant.value]

def TypeLayout.outline (layout : TypeLayout) : Outline :=
  .list [.wide layout.size.toNat, .wide layout.align.toNat]

def RecordLayout.outline (layout : RecordLayout) : Outline :=
  .record [("layout", layout.layout.outline),
    ("offsets", .each (fun offset => .wide offset.toNat) layout.offsets)]

def DefBody.outline (body : DefBody) : Outline :=
  .record [("members", .each Member.outline body.members),
    ("methods", .each (fun m => .list [m.name, m.signature, m.isStatic]) body.methods),
    ("operators", .each (fun o => .list [o.op.label, o.signature]) body.operators),
    ("base", .opt .type body.base), ("interfaces", .each .type body.interfaces),
    ("constants", .each EnumConstant.outline body.constants),
    ("index", .opt .type body.indexType)]

def MemberRef.outline : MemberRef → Outline
  | .field owner index type => .list ["field", owner, index, type]
  | .method owner index signature => .list ["method", owner, index, signature]

def OperatorRef.outline (found : OperatorRef) : Outline :=
  .list [found.owner, found.index, found.signature]

def OverloadMatch.outline (found : OverloadMatch) : Outline :=
  .record [("index", found.index), ("signature", found.signature), ("cost", found.cost),
    ("ranks", .each (fun rank => rank.label) found.ranks)]

def MethodMatch.outline (found : MethodMatch) : Outline :=
  .record [("owner", found.owner), ("method", found.method),
    ("overload", found.overload.outline)]

def FunctionInstance.outline (made : FunctionInstance) : Outline :=
  .record [("template", made.key.template),
    ("args", .each TemplateArgument.outline made.key.arguments), ("signature", made.signature)]

def Instance.outline : Instance → Outline
  | .type ty => ty
  | .function made => made.outline

namespace TypeContext

variable (ctx : TypeContext) (names : Interner)

def keyOutline (key : SpecializationKey) : Outline :=
  .record [("template", key.template),
    ("args", .each TemplateArgument.outline key.arguments),
    ("kinds", .each (fun argument => argument.sort.word) key.arguments),
    ("display", ctx.displayKey names key)]

def defOutline (entry : TypeDef) : Outline :=
  .record [("id", entry.id), ("name", .opt .name entry.name), ("kind", entry.kind.keyword),
    ("ty", entry.type), ("locator", .opt (fun l => .wide l.raw.toNat) entry.locator),
    ("complete", entry.body.isSome),
    ("specialization", .opt (ctx.keyOutline names) entry.specialization)]

def infoOutline (ty : TypeId) : Except TypeError Outline := do
  let form ← ctx.pool.form ty
  let flags := ctx.pool.flags ty
  let quals := ctx.pool.qualifiers ty
  return .record [("data", form.outline), ("ty", ty), ("children", .each .type form.children),
    ("flags", .each .text flags.labels), ("concrete", flags.isConcrete), ("quals", quals.text),
    ("const", quals.isConst), ("volatile", quals.isVolatile)]

/-- What an error says beside its report. -/
def errorDetails : TypeError → List (String × Outline)
  | .memberNotFound ty .. | .operatorNotFound ty _ | .incompleteType ty | .infiniteSize ty =>
    [("ty", ty)]
  | .unsupportedWidth ty bits => [("ty", ty), ("bits", bits)]
  | .ambiguousCall _ candidates => [("candidates", .each .type candidates)]
  | .noMatchingOverload _ arguments candidates =>
    [("args", .each .type arguments), ("candidates", .each .type candidates)]
  | .recursionLimitExceeded _ chain =>
    [("chain_len", chain.length),
      ("chain_start", .each (fun key => ctx.displayKey names key) (chain.take 4))]
  | .registry (.duplicate _ existing) =>
    [("registry", .record [("error", "Duplicate"), ("existing", existing)])]
  | .registry cause =>
    [("registry", .record [("error", Fault.label cause), ("message", Fault.message cause)])]
  | _ => []

/-- An error with its report. Its wording leaves types and names open. -/
def errorOutline (err : TypeError) : Outline :=
  .record ([("error", .text (Fault.label err)), ("code", .text err.code.label),
    ("message", .text (ctx.errorText names err)), ("label", .text err.placeRemark),
    ("notes", .each .text (ctx.errorNotes names err)),
    ("text", .text (err.wording (fun _ => "\x7bty\x7d") fun _ => "\x7bname\x7d"))] ++
    ctx.errorDetails names err)

end TypeContext

/-- A registry error on its own. -/
def RegistryError.outline : RegistryError → Outline
  | .duplicate _ existing => .record [("error", "Duplicate"), ("existing", existing)]
  | cause => .record [("error", Fault.label cause), ("message", Fault.message cause)]

end FrontEnd
