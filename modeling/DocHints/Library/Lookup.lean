import DocHints.Library.Standard

/-!
# Looking up library names

The value of a dotted name of the standard library.  The vocabulary of types has
its own table, because its members are constructs and not classes.
-/

namespace DocHints.Library

/-! ## The vocabulary of types -/

/--
The constructs that stand for a class of containers, with the number of their arguments.
`none` tells that any number is allowed, and zero that they take no arguments at all.
-/
def containerForms : List (String × Option Nat) :=
  [("AbstractSet", some 1), ("AsyncContextManager", some 1), ("AsyncGenerator", some 2),
   ("AsyncIterable", some 1), ("AsyncIterator", some 1), ("Awaitable", some 1),
   ("ByteString", some 0), ("Callable", some 2), ("ChainMap", some 2),
   ("Collection", some 1), ("Container", some 1), ("ContextManager", some 1),
   ("Coroutine", some 3), ("Counter", some 1), ("DefaultDict", some 2),
   ("Deque", some 1), ("Dict", some 2), ("FrozenSet", some 1),
   ("Generator", some 3), ("Hashable", some 0), ("ItemsView", some 2),
   ("Iterable", some 1), ("Iterator", some 1), ("KeysView", some 1),
   ("List", some 1), ("Mapping", some 2), ("MappingView", some 1),
   ("Match", some 1), ("MutableMapping", some 2), ("MutableSequence", some 1),
   ("MutableSet", some 1), ("OrderedDict", some 2), ("Pattern", some 1),
   ("Reversible", some 1), ("Sequence", some 1), ("Set", some 1), ("Sized", some 0),
   ("Tuple", none), ("Type", some 1), ("ValuesView", some 1)]

def specialForms : List String :=
  ["ClassVar", "Concatenate", "Final", "Literal", "LiteralString", "Never", "NoReturn",
   "NotRequired", "Optional", "Required", "Self", "TypeAlias", "TypeGuard", "Union",
   "Unpack"]

def isForm (name : String) : Bool :=
  specialForms.contains name || containerForms.any (·.1 == name)

def typingVariable (name : String) (variance : Variance) : Variable :=
  ⟨"typing", name, 0, variance⟩

def strClass : ClassRef := ⟨"builtins", "str", .library, true⟩
def bytesClass : ClassRef := ⟨"builtins", "bytes", .library, true⟩

def anyStr : Value :=
  .typeVar (typingVariable "AnyStr" .invariant) none [.cls strClass, .cls bytesClass]

def typingVariables : List (String × Value) :=
  [("AnyStr", anyStr)] ++
  (["KT", "T", "VT"].map fun name =>
    (name, Value.typeVar (typingVariable name .invariant) none []))
    ++ (["CT_co", "T_co", "VT_co", "V_co"].map fun name =>
          (name, Value.typeVar (typingVariable name .covariant) none []))
    ++ [("T_contra", Value.typeVar (typingVariable "T_contra" .contravariant) none [])]

def typingExtra? (name : String) : Option Value :=
  if isForm name then some (.form ⟨"typing", name⟩)
  else if name == "TYPE_CHECKING" then some (.bool false)
  else (typingVariables.find? (·.1 == name)).map (·.2)

/-! ## The extended vocabulary -/

def extendedPath : String := "typing_extensions"

def extendedForms : List String :=
  ["ReadOnly", "TypeIs", "Unpack"]

/--
What the extended vocabulary has of its own; all its other names are those of
the basic one.
-/
def extendedCatalog : Catalog where
  path := extendedPath
  plain := "Doc TypeAliasType deprecated"
  special :=
    "Buffer ParamSpec Protocol SupportsAbs SupportsBytes SupportsComplex SupportsFloat
     SupportsIndex SupportsInt SupportsRound TypeVar TypeVarTuple"
  scriptedRoutines :=
    "NamedTuple TypedDict assert_type clear_overloads dataclass_transform get_annotations
     get_original_bases get_overloads get_protocol_members get_type_hints is_protocol
     is_typeddict override runtime runtime_checkable"

/-! ## Modules -/

def topModules : String :=
  "abc aifc antigravity argparse array ast asynchat asyncio asyncore atexit audioop base64 bdb
   binascii bisect builtins bz2 cProfile calendar cgi cgitb chunk cmath cmd code codecs codeop
   collections colorsys compileall concurrent configparser contextlib contextvars copy copyreg
   crypt csv ctypes curses dataclasses datetime dbm decimal difflib dis distutils doctest email
   encodings ensurepip enum errno faulthandler fcntl filecmp fileinput fnmatch fractions ftplib
   functools gc genericpath getopt getpass gettext glob graphlib grp gzip hashlib heapq hmac html
   http idlelib imaplib imghdr imp importlib inspect io ipaddress itertools json keyword lib2to3
   linecache locale logging lzma mailbox mailcap marshal math mimetypes mmap modulefinder
   multiprocessing netrc nis nntplib ntpath nturl2path numbers opcode operator optparse os
   ossaudiodev pathlib pdb pickle pickletools pipes pkgutil platform plistlib poplib posix
   posixpath pprint profile pstats pty pwd py_compile pyclbr pydoc pydoc_data pyexpat queue
   quopri random re readline reprlib resource rlcompleter runpy sched secrets select selectors
   shelve shlex shutil signal site smtpd smtplib sndhdr socket socketserver spwd sqlite3
   sre_compile sre_constants sre_parse ssl stat statistics string stringprep struct subprocess
   sunau symtable sys sysconfig syslog tabnanny tarfile telnetlib tempfile termios textwrap this
   threading time timeit tkinter token tokenize tomllib trace traceback tracemalloc tty turtle
   types typing typing_extensions unicodedata unittest urllib uu uuid venv warnings wave weakref
   webbrowser wsgiref xdrlib xml xmlrpc zipapp zipfile zipimport zlib zoneinfo attr attrs sphinx
   docutils jinja2 markupsafe pygments babel requests packaging"

def innerModules : String :=
  "collections.abc concurrent.futures email.message html.parser http.client http.server
   importlib.abc importlib.metadata importlib.util json.decoder json.encoder logging.config
   logging.handlers multiprocessing.pool os.path unittest.mock urllib.error urllib.parse
   urllib.request xml.dom xml.etree xml.etree.ElementTree"

def isModule (path : String) : Bool :=
  listed path topModules || listed path innerModules

def nativeModules : String :=
  "array atexit binascii builtins cmath errno faulthandler fcntl gc grp itertools marshal math mmap
   posix pwd readline resource select spwd sys syslog termios time unicodedata zlib"

def isNative (path : String) : Bool :=
  listed path nativeModules

def moduleName (path : String) : String :=
  if path == "os.path" then "posixpath" else path

def packages : String :=
  "asyncio collections concurrent ctypes curses dbm distutils email encodings ensurepip html http
   idlelib importlib json lib2to3 logging multiprocessing pydoc_data re sqlite3 tkinter tomllib
   unittest urllib venv wsgiref xml xml.dom xml.etree xmlrpc zoneinfo attr attrs sphinx docutils
   jinja2 markupsafe pygments babel requests packaging"

def isPackage (path : String) : Bool :=
  listed path packages

/-! ## Values -/

def constant? (module name : String) : Option Value :=
  match module, name with
  | "builtins", "None" => some .none
  | "builtins", "True" => some (.bool true)
  | "builtins", "False" => some (.bool false)
  | "builtins", "Ellipsis" => some .ellipsis
  | "builtins", "NotImplemented" => some .notImplemented
  | "builtins", "__debug__" => some (.bool true)
  | "sys", "version_info" =>
    some (.tuple [.int 3, .int 11, .int 6, .str "final", .int 0])
  | "sys", "platform" => some (.str "linux")
  | "os", "sep" => some (.str "/")
  | "os", "name" => some (.str "posix")
  | _, _ => none

def catalogOf? (module : String) : Option Catalog :=
  catalogs.find? (·.path == module)

def attribute? (module name : String) : Option Value :=
  match constant? module name with
  | some value => some value
  | none =>
    let inner := module ++ "." ++ name
    if listed inner innerModules then some (.module (moduleName inner))
    else if module == "typing" then
      match typingExtra? name with
      | some value => some value
      | none => typingCatalog.find? name
    else if module == extendedPath then
      if extendedForms.contains name then some (.form ⟨extendedPath, name⟩)
      else
        match extendedCatalog.find? name with
        | some value => some value
        | none =>
          match typingExtra? name with
          | some value => some value
          | none => typingCatalog.find? name
    else
      match catalogOf? module with
      | some catalog => catalog.find? name
      | none => none

def builtin? (name : String) : Option Value :=
  attribute? "builtins" name

/-- Classes that take arguments although no catalog lists them under their own name. -/
def genericElsewhere : List (String × String) :=
  [("_asyncio", "Future"), ("_asyncio", "Task"), ("_ctypes", "Array"),
   ("_queue", "SimpleQueue"), ("_weakrefset", "WeakSet"),
   ("asyncio.queues", "LifoQueue"), ("asyncio.queues", "PriorityQueue"),
   ("asyncio.queues", "Queue"), ("builtins", "async_generator"),
   ("builtins", "mappingproxy"), ("concurrent.futures._base", "Future"),
   ("posix", "DirEntry"), ("weakref", "ReferenceType")]

def takesArguments (c : ClassRef) : Bool :=
  c.origin == .library &&
    (genericElsewhere.contains (c.module, c.qualname) ||
      match catalogOf? c.module with
      | some catalog => catalog.takesArguments c.qualname
      | none => false)

/--
The classes of the vocabulary of types that check their arguments, with their
number.
-/
def checkedArity? (c : ClassRef) : Option Nat :=
  if c.origin == .library && c.module == "typing" &&
      (c.qualname == "IO" || c.qualname == "SupportsAbs"
        || c.qualname == "SupportsRound") then
    some 1
  else none

def nativeClassModules : String :=
  "array datetime decimal itertools re _io posix select _asyncio _queue _thread"

def nativeClasses : List (String × String) :=
  [("collections", "OrderedDict"), ("collections", "defaultdict"),
   ("collections", "deque"), ("functools", "partial"), ("weakref", "ReferenceType"),
   ("types", "GenericAlias"), ("types", "SimpleNamespace"), ("types", "UnionType")]

def isNativeClass (c : ClassRef) : Bool :=
  c.origin == .library
    && (listed c.module nativeClassModules
      || nativeClasses.contains (c.module, c.qualname))

/-! ## The interpreter's own classes -/

def interpreterTypes : List (String × String) :=
  [("function", "FunctionType"), ("code", "CodeType"),
   ("mappingproxy", "MappingProxyType"), ("cell", "CellType"),
   ("generator", "GeneratorType"), ("coroutine", "CoroutineType"),
   ("async_generator", "AsyncGeneratorType"), ("method", "MethodType"),
   ("builtin_function_or_method", "BuiltinMethodType"),
   ("wrapper_descriptor", "WrapperDescriptorType"),
   ("method-wrapper", "MethodWrapperType"),
   ("method_descriptor", "MethodDescriptorType"),
   ("classmethod_descriptor", "ClassMethodDescriptorType"),
   ("module", "ModuleType"), ("traceback", "TracebackType"), ("frame", "FrameType"),
   ("getset_descriptor", "GetSetDescriptorType"),
   ("member_descriptor", "MemberDescriptorType"), ("ellipsis", "EllipsisType"),
   ("NoneType", "NoneType"), ("NotImplementedType", "NotImplementedType")]

def interpreterMembers : List String :=
  ["SimpleNamespace", "GenericAlias", "UnionType", "DynamicClassAttribute", "new_class",
   "resolve_bases", "prepare_class", "coroutine"]

def interpreterName? : Value → Option String
  | .cls c =>
    if c.origin != .library then none
    else if c.module == "builtins" then
      (interpreterTypes.find? (·.1 == c.qualname)).map (·.2)
    else if c.module == "types" && interpreterMembers.contains c.qualname then
      some c.qualname
    else none
  | .routine .scripted "types" name =>
    if interpreterMembers.contains name then some name else none
  | _ => none

end DocHints.Library

namespace DocHints

def ClassRef.typeName (c : ClassRef) : String :=
  if Library.isNativeClass c then c.path else c.name

end DocHints
