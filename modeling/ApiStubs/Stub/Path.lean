/-!
# Bodies for the `path` module

Four methods of the `path` module have working bodies, so that a tool that runs the stubs can
follow relative paths. Each body reads `arguments` and carries its own helper.

* `collapseSegments` and the four bodies: the code, line by line;
* `body?`: the body of a method.
-/

namespace ApiStubs.Stub.Path

/-- The helper that collapses `.` and `..` segments. A `..` above the root is kept only for relative
paths. -/
def collapseSegments : List String :=
  ["function normalizeArray(parts, allowAboveRoot) \x7b",
   "    var res = [];",
   "    for (var i = 0; i < parts.length; i++) \x7b",
   "        var p = parts[i];",
   "        if (!p || p === '.') \x7b",
   "            continue;",
   "        \x7d",
   "        if (p === '..') \x7b",
   "            if (res.length && res[res.length - 1] !== '..') \x7b",
   "                res.pop();",
   "            \x7d else if (allowAboveRoot) \x7b",
   "                res.push('..');",
   "            \x7d",
   "        \x7d else \x7b",
   "            res.push(p);",
   "        \x7d",
   "    \x7d",
   "    return res;",
   "\x7d"]

/-- The body of `normalize`. -/
def normalizeBody : List String :=
  ["var input = String(arguments[0]).replace(/\\\\/g, '/');",
   "var isAbsolute = input.charAt(0) === '/';",
   "var trailingSlash = input.substr(-1) === '/';",
   "var result = normalizeArray(input.split('/'), !isAbsolute).join('/');",
   "if (!result && !isAbsolute) \x7b",
   "    result = '.';",
   "\x7d",
   "if (result && trailingSlash) \x7b",
   "    result += '/';",
   "\x7d",
   "return (isAbsolute ? '/' : '') + result;"]

/-- The body of `join`. -/
def joinBody : List String :=
  ["var paths = [];",
   "for (var i = 0; i < arguments.length; i++) \x7b",
   "    var segment = arguments[i];",
   "    if (typeof segment !== 'string') \x7b",
   "        throw new TypeError('Arguments to path.join must be strings');",
   "    \x7d",
   "    if (segment) \x7b",
   "        paths.push(segment.replace(/\\\\/g, '/'));",
   "    \x7d",
   "\x7d",
   "var joined = paths.join('/');",
   "var isAbsolute = joined.charAt(0) === '/';",
   "var trailingSlash = joined.substr(-1) === '/';",
   "var result = normalizeArray(joined.split('/'), !isAbsolute).join('/');",
   "if (!result && !isAbsolute) \x7b",
   "    result = '.';",
   "\x7d",
   "if (result && trailingSlash) \x7b",
   "    result += '/';",
   "\x7d",
   "return (isAbsolute ? '/' : '') + result;"]

/-- The body of `resolve`. -/
def resolveBody : List String :=
  ["var resolvedPath = '';",
   "var resolvedAbsolute = false;",
   "for (var i = arguments.length - 1; i >= -1 && !resolvedAbsolute; i--) \x7b",
   "    var segment = (i >= 0) ? arguments[i] : '/';",
   "    if (typeof segment !== 'string') \x7b",
   "        throw new TypeError('Arguments to path.resolve must be strings');",
   "    \x7d",
   "    if (!segment) \x7b",
   "        continue;",
   "    \x7d",
   "    segment = segment.replace(/\\\\/g, '/');",
   "    resolvedPath = segment + '/' + resolvedPath;",
   "    resolvedAbsolute = segment.charAt(0) === '/';",
   "\x7d",
   "resolvedPath = normalizeArray(resolvedPath.split('/'), !resolvedAbsolute).join('/');",
   "return ((resolvedAbsolute ? '/' : '') + resolvedPath) || '.';"]

/-- The body of `relative`. -/
def relativeBody : List String :=
  ["function toParts(p) \x7b",
   "    p = String(p).replace(/\\\\/g, '/');",
   "    if (p.charAt(0) !== '/') \x7b",
   "        p = '/' + p;",
   "    \x7d",
   "    return normalizeArray(p.split('/'), false);",
   "\x7d",
   "var fromParts = toParts(arguments[0]);",
   "var toPartsList = toParts(arguments[1]);",
   "var length = Math.min(fromParts.length, toPartsList.length);",
   "var samePartsLength = length;",
   "for (var i = 0; i < length; i++) \x7b",
   "    if (fromParts[i] !== toPartsList[i]) \x7b",
   "        samePartsLength = i;",
   "        break;",
   "    \x7d",
   "\x7d",
   "var outputParts = [];",
   "for (var j = samePartsLength; j < fromParts.length; j++) \x7b",
   "    outputParts.push('..');",
   "\x7d",
   "outputParts = outputParts.concat(toPartsList.slice(samePartsLength));",
   "return outputParts.join('/');"]

/-- The name of the module. -/
def moduleName : String := "path"

/-- The lines of the body of a method, if it has one. -/
def bodyLines? : String → Option (List String)
  | "relative" => some relativeBody
  | "normalize" => some normalizeBody
  | "resolve" => some resolveBody
  | "join" => some joinBody
  | _ => none

/-- The body of a method with its helper in front. -/
def body? (method : String) : Option String :=
  (bodyLines? method).map fun lines => "\n".intercalate (collapseSegments ++ lines)

end ApiStubs.Stub.Path
