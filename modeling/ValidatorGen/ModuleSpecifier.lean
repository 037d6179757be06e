import ValidatorGen.Path

/-!
# Module specifiers

How a generated module names another one.  A backslash counts as a slash and repeated slashes
as one; a package below `node_modules` is named by itself; a path that does not already start with
`./` or `../` gets a `./` in front.
-/

namespace ValidatorGen.ModuleSpecifier

/-- One slash in place of every run of them. -/
def squeeze : Text → Text
  | [] => []
  | c :: r => if c = '/' && r.head? == some '/' then squeeze r else c :: squeeze r

/-- The text behind the last `/node_modules/`. -/
def behindPackages (s : Text) : Text :=
  match h : Text.behind? "/node_modules/" s with
  | none => s
  | some r =>
    have := Text.length_lt_of_behind? (by decide) h
    behindPackages r
termination_by s.length

/-- The specifier that a relative path gives. -/
def ofRelative (path : Text) : Text :=
  let bare := (Text.dropStart? "\\\\?\\" path).getD path
  let s := squeeze (bare.map fun (c : CodePoint) => if c = '\\' then '/' else c)
  if (Text.behind? "/node_modules/" s).isSome then behindPackages s
  else match Text.dropStart? "node_modules/" s with
    | some r => r
    | none =>
      if ("../" : Text).isPrefixOf s || ("./" : Text).isPrefixOf s then s else "./" ++ s

/-- The specifier of an absolute target in a module inside `start`. -/
def between (target start : List Text) : Text :=
  let way := Path.relative target start
  ofRelative (if way = [] then "." else Text.join "/" way)

/-- The specifier of a target in a module inside `start`, both seen from `cwd`. -/
def relative (cwd : List Text) (target start : Text) : Text :=
  between ((Path.ofText target).absolute cwd) ((Path.ofText start).absolute cwd)

end ValidatorGen.ModuleSpecifier
