/-
**The guide for assistants.**

The guide shows how chains are written and what they expand to.
-/

namespace IfChains

namespace Tools

/-- The text of the guide. -/
def guide : String := "# Writing If-chains

An If-chain is a conditional written as an expression. Import the macro,
write the chain, and run the file through ifexpr (ifexpr_build / ifexpr_run).

```
from ifexpr.macro import If

size = If(n > 10).then(\"big\").else_(\"small\").end()
```

## Continuations
- `.then(expr)` / `.else_(expr)`: value of the branch (exactly one argument)
- `.then_do(a, b, ...)` / `.else_do(...)`: evaluated for side effects only;
  the branch keeps the value of the previous `.then` / `.else_` (or None)
- `.else_if(cond)`: starts a nested chain in the else branch
- `.end()` / `.end_()`: closes the chain; required

Several `.then(...)` calls run in order and the branch takes the last value.
A branch that never produced a value evaluates to None.

## Expansion
```
If(c).then(a).else_(b).end()                  ->  a if c else b
If(c).then(a).end()                           ->  a if c else None
If(c).then(a).then(b).end()                   ->  (a, b)[-1] if c else None
If(c).then(a).else_if(d).then(b).end()        ->  a if c else b if d else None
```

Only the selected branch is evaluated at runtime.
"

end Tools

end IfChains
