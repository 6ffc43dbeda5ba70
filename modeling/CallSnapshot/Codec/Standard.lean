import CallSnapshot.Codec.Catalogue

/-! The definitions that are there beside those of any project. -/

namespace CallSnapshot.Standard

/-- Built-in classes of which a blank instance needs no arguments, and that instance. -/
def blanks : List (Qualified × Value) := [
  (builtin "int", .int 0), (builtin "bool", .bool false), (builtin "str", .str ""),
  (builtin "float", .float Binary64.zero), (builtin "complex", .complex Binary64.zero Binary64.zero),
  (builtin "bytes", .bytes []), (builtin "list", .list []), (builtin "tuple", .tuple []),
  (builtin "dict", .dict []), (builtin "set", .set []), (builtin "frozenset", .frozenset []),
  (⟨"decimal", "Decimal"⟩, .decimal (.ofInt 0))]

def exceptions : List String := ["BaseException", "Exception", "ArithmeticError", "AssertionError",
  "AttributeError", "BufferError", "EOFError", "ImportError", "IndexError", "KeyError", "LookupError",
  "MemoryError", "ModuleNotFoundError", "NameError", "NotImplementedError", "OSError", "OverflowError",
  "RecursionError", "ReferenceError", "RuntimeError", "StopIteration", "SyntaxError", "SystemError",
  "TypeError", "UnicodeError", "ValueError", "ZeroDivisionError", "KeyboardInterrupt", "SystemExit",
  "GeneratorExit", "Warning", "FileNotFoundError", "FileExistsError", "PermissionError", "TimeoutError",
  "ConnectionError", "IsADirectoryError", "NotADirectoryError", "ProcessLookupError", "UnboundLocalError",
  "FloatingPointError", "StopAsyncIteration", "IndentationError", "TabError", "UnicodeDecodeError",
  "UnicodeEncodeError", "UnicodeTranslateError", "BlockingIOError", "ChildProcessError",
  "InterruptedError", "BrokenPipeError", "ConnectionAbortedError", "ConnectionRefusedError",
  "ConnectionResetError", "EnvironmentError", "IOError", "DeprecationWarning", "FutureWarning",
  "ImportWarning", "PendingDeprecationWarning", "ResourceWarning", "RuntimeWarning", "SyntaxWarning",
  "UnicodeWarning", "UserWarning", "BytesWarning", "EncodingWarning", "BaseExceptionGroup",
  "ExceptionGroup"]

def demanding : List String := ["bytearray", "type", "range", "slice", "property", "super", "memoryview",
  "enumerate", "zip", "map", "filter", "reversed", "staticmethod", "classmethod"]

def functions : List String := ["len", "print", "abs", "sum", "min", "max", "sorted", "repr", "hash", "id",
  "iter", "next", "any", "all", "open", "isinstance", "getattr", "setattr", "hasattr", "callable", "round",
  "pow", "divmod", "ord", "chr", "hex", "oct", "bin", "format", "vars", "dir", "eval", "exec", "input",
  "globals", "locals", "issubclass", "delattr", "ascii", "compile"]

def methods : List String := ["str.upper", "str.lower", "str.join", "list.append", "dict.get"]

/-- Modules that are loaded before any module of a project. -/
def modules : List String := ["__main__", "__future__", "_thread", "abc", "argparse", "ast", "asyncio",
  "atexit", "base64", "bisect", "builtins", "bz2", "calendar", "codecs", "collections", "concurrent",
  "configparser", "contextlib", "contextvars", "copy", "copyreg", "csv", "ctypes", "dataclasses",
  "datetime", "decimal", "difflib", "dis", "email", "encodings", "enum", "errno", "fnmatch", "fractions",
  "functools", "gc", "genericpath", "getpass", "glob", "gzip", "hashlib", "heapq", "hmac", "html", "http",
  "importlib", "inspect", "io", "io_snapshot", "ipaddress", "itertools", "json", "keyword", "linecache",
  "locale", "logging", "lzma", "marshal", "math", "mimetypes", "multiprocessing", "netrc", "ntpath",
  "numbers", "numpy", "opcode", "operator", "os", "pathlib", "pickle", "platform", "posix", "posixpath",
  "pprint", "queue", "random", "re", "reprlib", "requests", "secrets", "select", "selectors", "shlex",
  "shutil", "signal", "site", "socket", "ssl", "stat", "statistics", "string", "struct", "subprocess",
  "sys", "sysconfig", "tempfile", "textwrap", "threading", "time", "timeit", "token", "tokenize",
  "traceback", "types", "typing", "unicodedata", "unittest", "urllib", "uuid", "warnings", "weakref",
  "xml", "zipfile", "zipimport", "zlib"]

def fraction : Class := ⟨⟨"fractions", "Fraction"⟩, .slots [["_numerator", "_denominator"]], .ratio⟩

def httpStatus : Enumeration :=
  ⟨⟨"http", "HTTPStatus"⟩, .int, [("OK", .int 200), ("NOT_FOUND", .int 404)]⟩

def catalogue : Catalogue where
  classes := [fraction, ⟨⟨"types", "SimpleNamespace"⟩, .openEnded, .fields false⟩,
    ⟨builtin "object", .slots [], .each⟩] ++
    ((blanks.map Prod.fst) ++ (exceptions ++ demanding).map builtin).map fun q => ⟨q, .openEnded, .each⟩
  enumerations := [httpStatus]
  functions := (functions.map builtin) ++ ["dumps", "loads", "dump", "load"].map fun n => ⟨"json", n⟩
  nameless := methods.map builtin
  blanks := (fraction.name, .object fraction [("_numerator", .int 0), ("_denominator", .int 1)]) :: blanks
  barred := demanding.map fun n => (builtin n, ⟨.type, s!"{n}() missing required argument"⟩)

end CallSnapshot.Standard
