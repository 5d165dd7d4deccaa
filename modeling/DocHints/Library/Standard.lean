import DocHints.Library.Catalog

/-!
# The standard library

The catalogs of the modules whose classes and functions are known by name.
-/

namespace DocHints.Library

def builtinsCatalog : Catalog where
  path := "builtins"
  plain :=
    "ArithmeticError AssertionError AttributeError BaseException BlockingIOError BrokenPipeError
     BufferError BytesWarning ChildProcessError ConnectionAbortedError ConnectionError
     ConnectionRefusedError ConnectionResetError DeprecationWarning EOFError EncodingWarning
     Exception FileExistsError FileNotFoundError FloatingPointError FutureWarning GeneratorExit
     ImportError ImportWarning IndentationError IndexError InterruptedError IsADirectoryError
     KeyError KeyboardInterrupt LookupError MemoryError ModuleNotFoundError NameError
     NotADirectoryError NotImplementedError OSError OverflowError PendingDeprecationWarning
     PermissionError ProcessLookupError RecursionError ReferenceError ResourceWarning
     RuntimeError RuntimeWarning StopAsyncIteration StopIteration SyntaxError SyntaxWarning
     SystemError SystemExit TabError TimeoutError TypeError UnboundLocalError UnicodeDecodeError
     UnicodeEncodeError UnicodeError UnicodeTranslateError UnicodeWarning UserWarning ValueError
     Warning ZeroDivisionError bool bytearray bytes classmethod complex filter float int map
     memoryview object property range reversed slice staticmethod str super zip"
  plainGeneric :=
    "BaseExceptionGroup ExceptionGroup dict enumerate frozenset list set tuple type"
  builtinRoutines :=
    "abs aiter all anext any ascii bin breakpoint callable chr compile delattr dir divmod eval
     exec format getattr globals hasattr hash hex id input isinstance issubclass iter len locals
     max min next oct ord pow print repr round setattr sorted sum vars"
  elsewhere :=
    [("EnvironmentError", "builtins", "OSError", true),
     ("IOError", "builtins", "OSError", true)]

def collectionsCatalog : Catalog where
  path := "collections"
  plainGeneric :=
    "Counter OrderedDict defaultdict deque"
  specialGeneric :=
    "ChainMap UserDict UserList UserString"
  scriptedRoutines :=
    "namedtuple"

def collectionsAbcCatalog : Catalog where
  path := "collections.abc"
  special :=
    "Hashable Sized"
  specialGeneric :=
    "AsyncGenerator AsyncIterable AsyncIterator Awaitable ByteString Callable Collection
     Container Coroutine Generator ItemsView Iterable Iterator KeysView Mapping MappingView
     MutableMapping MutableSequence MutableSet Reversible Sequence Set ValuesView"

def typesCatalog : Catalog where
  path := "types"
  plain :=
    "DynamicClassAttribute GenericAlias SimpleNamespace UnionType"
  scriptedRoutines :=
    "coroutine new_class prepare_class resolve_bases"
  elsewhere :=
    [("AsyncGeneratorType", "builtins", "async_generator", true),
     ("BuiltinFunctionType", "builtins", "builtin_function_or_method", true),
     ("BuiltinMethodType", "builtins", "builtin_function_or_method", true),
     ("CellType", "builtins", "cell", true),
     ("ClassMethodDescriptorType", "builtins", "classmethod_descriptor", true),
     ("CodeType", "builtins", "code", true),
     ("CoroutineType", "builtins", "coroutine", true),
     ("EllipsisType", "builtins", "ellipsis", true),
     ("FrameType", "builtins", "frame", true),
     ("FunctionType", "builtins", "function", true),
     ("GeneratorType", "builtins", "generator", true),
     ("GetSetDescriptorType", "builtins", "getset_descriptor", true),
     ("LambdaType", "builtins", "function", true),
     ("MappingProxyType", "builtins", "mappingproxy", true),
     ("MemberDescriptorType", "builtins", "member_descriptor", true),
     ("MethodDescriptorType", "builtins", "method_descriptor", true),
     ("MethodType", "builtins", "method", true),
     ("MethodWrapperType", "builtins", "method-wrapper", true),
     ("ModuleType", "builtins", "module", true),
     ("NoneType", "builtins", "NoneType", true),
     ("NotImplementedType", "builtins", "NotImplementedType", true),
     ("TracebackType", "builtins", "traceback", true),
     ("WrapperDescriptorType", "builtins", "wrapper_descriptor", true)]

def arrayCatalog : Catalog where
  path := "array"
  plain :=
    "array"
  elsewhere :=
    [("ArrayType", "array", "array", true)]

def datetimeCatalog : Catalog where
  path := "datetime"
  plain :=
    "date datetime time timedelta timezone tzinfo"

def decimalCatalog : Catalog where
  path := "decimal"
  plain :=
    "Clamped Context ConversionSyntax Decimal DecimalException DivisionByZero DivisionImpossible
     DivisionUndefined FloatOperation Inexact InvalidContext InvalidOperation Overflow Rounded
     Subnormal Underflow"
  plainGeneric :=
    "DecimalTuple"
  builtinRoutines :=
    "getcontext localcontext setcontext"

def enumCatalog : Catalog where
  path := "enum"
  plain :=
    "EnumType auto member nonmember property verify"
  special :=
    "Enum EnumCheck Flag FlagBoundary IntEnum IntFlag ReprEnum StrEnum"
  scriptedRoutines :=
    "bin global_enum global_enum_repr global_flag_repr global_str pickle_by_enum_name
     pickle_by_global_name show_flag_values unique"
  elsewhere :=
    [("DynamicClassAttribute", "types", "DynamicClassAttribute", true),
     ("EnumMeta", "enum", "EnumType", true),
     ("MappingProxyType", "builtins", "mappingproxy", true)]

def functoolsCatalog : Catalog where
  path := "functools"
  plain :=
    "singledispatchmethod"
  plainGeneric :=
    "cached_property partial partialmethod"
  scriptedRoutines :=
    "cache lru_cache singledispatch total_ordering update_wrapper wraps"
  elsewhere :=
    [("GenericAlias", "types", "GenericAlias", true),
     ("RLock", "_thread", "RLock", true)]

def ioCatalog : Catalog where
  path := "io"
  plain :=
    "UnsupportedOperation"
  special :=
    "BufferedIOBase IOBase RawIOBase TextIOBase"
  builtinRoutines :=
    "open open_code text_encoding"
  elsewhere :=
    [("BlockingIOError", "builtins", "BlockingIOError", true),
     ("BufferedRWPair", "_io", "BufferedRWPair", true),
     ("BufferedRandom", "_io", "BufferedRandom", true),
     ("BufferedReader", "_io", "BufferedReader", true),
     ("BufferedWriter", "_io", "BufferedWriter", true),
     ("BytesIO", "_io", "BytesIO", true),
     ("FileIO", "_io", "FileIO", true),
     ("IncrementalNewlineDecoder", "_io", "IncrementalNewlineDecoder", true),
     ("StringIO", "_io", "StringIO", true),
     ("TextIOWrapper", "_io", "TextIOWrapper", true)]

def loggingCatalog : Catalog where
  path := "logging"
  plain :=
    "BufferingFormatter Filter Filterer Formatter Handler LogRecord Logger Manager NullHandler
     PercentStyle PlaceHolder RootLogger StrFormatStyle StringTemplateStyle"
  plainGeneric :=
    "FileHandler LoggerAdapter StreamHandler"
  scriptedRoutines :=
    "addLevelName basicConfig captureWarnings critical debug disable error exception fatal
     getLevelName getLevelNamesMapping getLogRecordFactory getLogger getLoggerClass info log
     makeLogRecord setLogRecordFactory setLoggerClass shutdown warn warning"
  elsewhere :=
    [("GenericAlias", "types", "GenericAlias", true),
     ("Template", "string", "Template", true)]

def osCatalog : Catalog where
  path := "os"
  plainGeneric :=
    "stat_result statvfs_result terminal_size"
  specialGeneric :=
    "PathLike"
  scriptedRoutines :=
    "execl execle execlp execlpe execvp execvpe fdopen fwalk get_exec_path getenv getenvb
     makedirs popen removedirs renames spawnl spawnle spawnlp spawnlpe spawnv spawnve spawnvp
     spawnvpe walk"
  elsewhere :=
    [("DirEntry", "posix", "DirEntry", true),
     ("GenericAlias", "types", "GenericAlias", true),
     ("Mapping", "collections.abc", "Mapping", false),
     ("MutableMapping", "collections.abc", "MutableMapping", false),
     ("error", "builtins", "OSError", true),
     ("sched_param", "posix", "sched_param", true),
     ("times_result", "posix", "times_result", true),
     ("uname_result", "posix", "uname_result", true),
     ("waitid_result", "posix", "waitid_result", true)]

def posixpathCatalog : Catalog where
  path := "posixpath"
  scriptedRoutines :=
    "abspath basename commonpath commonprefix dirname exists expanduser expandvars getatime getctime
     getmtime getsize isabs isdir isfile islink ismount join lexists normcase normpath realpath
     relpath samefile sameopenfile samestat split splitdrive splitext"

def pathlibCatalog : Catalog where
  path := "pathlib"
  plain :=
    "Path PosixPath PurePath PurePosixPath PureWindowsPath WindowsPath"
  elsewhere :=
    [("Sequence", "collections.abc", "Sequence", false),
     ("attrgetter", "operator", "attrgetter", true)]

def reCatalog : Catalog where
  path := "re"
  plain :=
    "Scanner error"
  plainGeneric :=
    "Match Pattern"
  special :=
    "RegexFlag"
  scriptedRoutines :=
    "compile escape findall finditer fullmatch match purge search split sub subn template"

def abcCatalog : Catalog where
  path := "abc"
  plain :=
    "ABCMeta abstractclassmethod abstractproperty abstractstaticmethod"
  special :=
    "ABC"
  scriptedRoutines :=
    "abstractmethod update_abstractmethods"

def argparseCatalog : Catalog where
  path := "argparse"
  plain :=
    "Action ArgumentDefaultsHelpFormatter ArgumentError ArgumentParser ArgumentTypeError
     BooleanOptionalAction FileType HelpFormatter MetavarTypeHelpFormatter Namespace
     RawDescriptionHelpFormatter RawTextHelpFormatter"

def astCatalog : Catalog where
  path := "ast"
  plain :=
    "AST Add And AnnAssign Assert Assign AsyncFor AsyncFunctionDef AsyncWith Attribute AugAssign
     AugLoad AugStore Await BinOp BitAnd BitOr BitXor BoolOp Break Call ClassDef Compare Constant
     Continue Del Delete Dict DictComp Div Eq ExceptHandler Expr Expression ExtSlice FloorDiv For
     FormattedValue FunctionDef FunctionType GeneratorExp Global Gt GtE If IfExp Import
     ImportFrom In Index Interactive Invert Is IsNot JoinedStr LShift Lambda List ListComp Load
     Lt LtE MatMult Match MatchAs MatchClass MatchMapping MatchOr MatchSequence MatchSingleton
     MatchStar MatchValue Mod Module Mult Name NamedExpr NodeTransformer NodeVisitor Nonlocal Not
     NotEq NotIn Or Param Pass Pow RShift Raise Return Set SetComp Slice Starred Store Sub
     Subscript Suite Try TryStar Tuple TypeIgnore UAdd USub UnaryOp While With Yield YieldFrom
     alias arg arguments boolop cmpop comprehension excepthandler expr expr_context keyword
     match_case mod operator pattern slice stmt type_ignore unaryop withitem"
  special :=
    "Bytes Ellipsis NameConstant Num Str"
  scriptedRoutines :=
    "copy_location dump fix_missing_locations get_docstring get_source_segment increment_lineno
     iter_child_nodes iter_fields literal_eval main parse unparse walk"
  elsewhere :=
    [("IntEnum", "enum", "IntEnum", false),
     ("auto", "enum", "auto", true),
     ("nullcontext", "contextlib", "nullcontext", false)]

def asyncioCatalog : Catalog where
  path := "asyncio"
  elsewhere :=
    [("AbstractChildWatcher", "asyncio.unix_events", "AbstractChildWatcher", true),
     ("AbstractEventLoop", "asyncio.events", "AbstractEventLoop", true),
     ("AbstractEventLoopPolicy", "asyncio.events", "AbstractEventLoopPolicy", true),
     ("AbstractServer", "asyncio.events", "AbstractServer", true),
     ("Barrier", "asyncio.locks", "Barrier", true),
     ("BaseEventLoop", "asyncio.base_events", "BaseEventLoop", true),
     ("BaseProtocol", "asyncio.protocols", "BaseProtocol", true),
     ("BaseTransport", "asyncio.transports", "BaseTransport", true),
     ("BoundedSemaphore", "asyncio.locks", "BoundedSemaphore", true),
     ("BrokenBarrierError", "asyncio.exceptions", "BrokenBarrierError", true),
     ("BufferedProtocol", "asyncio.protocols", "BufferedProtocol", true),
     ("CancelledError", "asyncio.exceptions", "CancelledError", true),
     ("Condition", "asyncio.locks", "Condition", true),
     ("DatagramProtocol", "asyncio.protocols", "DatagramProtocol", true),
     ("DatagramTransport", "asyncio.transports", "DatagramTransport", true),
     ("DefaultEventLoopPolicy", "asyncio.unix_events", "_UnixDefaultEventLoopPolicy", true),
     ("Event", "asyncio.locks", "Event", true),
     ("FastChildWatcher", "asyncio.unix_events", "FastChildWatcher", true),
     ("Future", "_asyncio", "Future", true),
     ("Handle", "asyncio.events", "Handle", true),
     ("IncompleteReadError", "asyncio.exceptions", "IncompleteReadError", true),
     ("InvalidStateError", "asyncio.exceptions", "InvalidStateError", true),
     ("LifoQueue", "asyncio.queues", "LifoQueue", true),
     ("LimitOverrunError", "asyncio.exceptions", "LimitOverrunError", true),
     ("Lock", "asyncio.locks", "Lock", true),
     ("MultiLoopChildWatcher", "asyncio.unix_events", "MultiLoopChildWatcher", true),
     ("PidfdChildWatcher", "asyncio.unix_events", "PidfdChildWatcher", true),
     ("PriorityQueue", "asyncio.queues", "PriorityQueue", true),
     ("Protocol", "asyncio.protocols", "Protocol", true),
     ("Queue", "asyncio.queues", "Queue", true),
     ("QueueEmpty", "asyncio.queues", "QueueEmpty", true),
     ("QueueFull", "asyncio.queues", "QueueFull", true),
     ("ReadTransport", "asyncio.transports", "ReadTransport", true),
     ("Runner", "asyncio.runners", "Runner", true),
     ("SafeChildWatcher", "asyncio.unix_events", "SafeChildWatcher", true),
     ("SelectorEventLoop", "asyncio.unix_events", "_UnixSelectorEventLoop", true),
     ("Semaphore", "asyncio.locks", "Semaphore", true),
     ("SendfileNotAvailableError", "asyncio.exceptions", "SendfileNotAvailableError", true),
     ("Server", "asyncio.base_events", "Server", true),
     ("StreamReader", "asyncio.streams", "StreamReader", true),
     ("StreamReaderProtocol", "asyncio.streams", "StreamReaderProtocol", true),
     ("StreamWriter", "asyncio.streams", "StreamWriter", true),
     ("SubprocessProtocol", "asyncio.protocols", "SubprocessProtocol", true),
     ("SubprocessTransport", "asyncio.transports", "SubprocessTransport", true),
     ("Task", "_asyncio", "Task", true),
     ("TaskGroup", "asyncio.taskgroups", "TaskGroup", true),
     ("ThreadedChildWatcher", "asyncio.unix_events", "ThreadedChildWatcher", true),
     ("Timeout", "asyncio.timeouts", "Timeout", true),
     ("TimeoutError", "builtins", "TimeoutError", true),
     ("TimerHandle", "asyncio.events", "TimerHandle", true),
     ("Transport", "asyncio.transports", "Transport", true),
     ("WriteTransport", "asyncio.transports", "WriteTransport", true)]

def contextlibCatalog : Catalog where
  path := "contextlib"
  plain :=
    "AsyncContextDecorator ContextDecorator"
  specialGeneric :=
    "AbstractAsyncContextManager AbstractContextManager AsyncExitStack ExitStack aclosing chdir
     closing nullcontext redirect_stderr redirect_stdout suppress"
  scriptedRoutines :=
    "asynccontextmanager contextmanager"
  elsewhere :=
    [("GenericAlias", "types", "GenericAlias", true),
     ("MethodType", "builtins", "method", true),
     ("deque", "collections", "deque", true)]

def dataclassesCatalog : Catalog where
  path := "dataclasses"
  plain :=
    "FrozenInstanceError"
  plainGeneric :=
    "Field InitVar"
  scriptedRoutines :=
    "asdict astuple dataclass field fields is_dataclass make_dataclass replace"
  elsewhere :=
    [("FunctionType", "builtins", "function", true),
     ("GenericAlias", "types", "GenericAlias", true)]

def fractionsCatalog : Catalog where
  path := "fractions"
  special :=
    "Fraction"
  elsewhere :=
    [("Decimal", "decimal", "Decimal", true)]

def inspectCatalog : Catalog where
  path := "inspect"
  plain :=
    "BlockFinder BoundArguments ClassFoundException EndOfBlock Parameter Signature"
  plainGeneric :=
    "ArgInfo Arguments Attribute ClosureVars FrameInfo FullArgSpec Traceback"
  scriptedRoutines :=
    "classify_class_attrs cleandoc currentframe findsource formatannotation
     formatannotationrelativeto formatargvalues get_annotations getabsfile getargs getargvalues
     getattr_static getblock getcallargs getclasstree getclosurevars getcomments
     getcoroutinelocals getcoroutinestate getdoc getfile getframeinfo getfullargspec
     getgeneratorlocals getgeneratorstate getinnerframes getlineno getmembers getmembers_static
     getmodule getmodulename getmro getouterframes getsource getsourcefile getsourcelines
     indentsize isabstract isasyncgen isasyncgenfunction isawaitable isbuiltin isclass iscode
     iscoroutine iscoroutinefunction isdatadescriptor isframe isfunction isgenerator
     isgeneratorfunction isgetsetdescriptor ismemberdescriptor ismethod ismethoddescriptor
     ismethodwrapper ismodule isroutine istraceback signature stack trace unwrap walktree"
  elsewhere :=
    [("OrderedDict", "collections", "OrderedDict", true),
     ("attrgetter", "operator", "attrgetter", true)]

def itertoolsCatalog : Catalog where
  path := "itertools"
  plain :=
    "accumulate combinations combinations_with_replacement compress count cycle dropwhile
     filterfalse groupby islice pairwise permutations product repeat starmap takewhile
     zip_longest"
  plainGeneric :=
    "chain"
  builtinRoutines :=
    "tee"

def jsonCatalog : Catalog where
  path := "json"
  scriptedRoutines :=
    "detect_encoding dump dumps load loads"
  elsewhere :=
    [("JSONDecodeError", "json.decoder", "JSONDecodeError", true),
     ("JSONDecoder", "json.decoder", "JSONDecoder", true),
     ("JSONEncoder", "json.encoder", "JSONEncoder", true)]

def numbersCatalog : Catalog where
  path := "numbers"
  special :=
    "Complex Integral Number Rational Real"
  elsewhere :=
    [("ABCMeta", "abc", "ABCMeta", true)]

def operatorCatalog : Catalog where
  path := "operator"
  plain :=
    "attrgetter itemgetter methodcaller"

def queueCatalog : Catalog where
  path := "queue"
  plain :=
    "Full"
  plainGeneric :=
    "LifoQueue PriorityQueue Queue"
  elsewhere :=
    [("Empty", "_queue", "Empty", true),
     ("SimpleQueue", "_queue", "SimpleQueue", true),
     ("deque", "collections", "deque", true)]

def randomCatalog : Catalog where
  path := "random"
  plain :=
    "Random SystemRandom"

def stringCatalog : Catalog where
  path := "string"
  plain :=
    "Formatter Template"
  scriptedRoutines :=
    "capwords"

def subprocessCatalog : Catalog where
  path := "subprocess"
  plain :=
    "CalledProcessError SubprocessError TimeoutExpired"
  plainGeneric :=
    "CompletedProcess Popen"
  scriptedRoutines :=
    "call check_call check_output getoutput getstatusoutput list2cmdline run"

def threadingCatalog : Catalog where
  path := "threading"
  plain :=
    "Barrier BoundedSemaphore BrokenBarrierError Condition Event Semaphore Thread Timer"
  scriptedRoutines :=
    "RLock activeCount active_count currentThread current_thread enumerate getprofile gettrace
     main_thread setprofile settrace"
  elsewhere :=
    [("ExceptHookArgs", "_thread", "_ExceptHookArgs", true),
     ("ThreadError", "builtins", "RuntimeError", true),
     ("WeakSet", "_weakrefset", "WeakSet", true),
     ("local", "_thread", "_local", true)]

def timeCatalog : Catalog where
  path := "time"
  plainGeneric :=
    "struct_time"
  builtinRoutines :=
    "asctime clock_getres clock_gettime clock_gettime_ns clock_settime clock_settime_ns ctime
     get_clock_info gmtime localtime mktime monotonic monotonic_ns perf_counter perf_counter_ns
     process_time process_time_ns pthread_getcpuclockid sleep strftime strptime thread_time
     thread_time_ns time time_ns tzset"

def uuidCatalog : Catalog where
  path := "uuid"
  plain :=
    "UUID"
  special :=
    "SafeUUID"
  scriptedRoutines :=
    "getnode uuid1 uuid3 uuid4 uuid5"
  elsewhere :=
    [("Enum", "enum", "Enum", false),
     ("bytes_", "builtins", "bytes", true),
     ("int_", "builtins", "int", true)]

def weakrefCatalog : Catalog where
  path := "weakref"
  plain :=
    "CallableProxyType ProxyType finalize"
  plainGeneric :=
    "KeyedRef ReferenceType WeakMethod"
  specialGeneric :=
    "WeakKeyDictionary WeakValueDictionary"
  elsewhere :=
    [("WeakSet", "_weakrefset", "WeakSet", true),
     ("ref", "weakref", "ReferenceType", true)]

def concurrentFuturesCatalog : Catalog where
  path := "concurrent.futures"
  elsewhere :=
    [("BrokenExecutor", "concurrent.futures._base", "BrokenExecutor", true),
     ("CancelledError", "concurrent.futures._base", "CancelledError", true),
     ("Executor", "concurrent.futures._base", "Executor", true),
     ("Future", "concurrent.futures._base", "Future", true),
     ("ProcessPoolExecutor", "concurrent.futures.process", "ProcessPoolExecutor", true),
     ("ThreadPoolExecutor", "concurrent.futures.thread", "ThreadPoolExecutor", true),
     ("TimeoutError", "builtins", "TimeoutError", true)]

def ctypesCatalog : Catalog where
  path := "ctypes"
  plain :=
    "ArgumentError CDLL PyDLL"
  plainGeneric :=
    "LibraryLoader"
  special :=
    "c_bool c_byte c_char c_char_p c_double c_float c_int c_long c_longdouble c_short c_ubyte
     c_uint c_ulong c_ushort c_void_p c_wchar c_wchar_p py_object"
  scriptedRoutines :=
    "ARRAY CFUNCTYPE PYFUNCTYPE SetPointerType cast create_string_buffer create_unicode_buffer
     string_at wstring_at"
  elsewhere :=
    [("Array", "_ctypes", "Array", false),
     ("BigEndianStructure", "ctypes._endian", "BigEndianStructure", false),
     ("BigEndianUnion", "ctypes._endian", "BigEndianUnion", false),
     ("LittleEndianStructure", "_ctypes", "Structure", false),
     ("LittleEndianUnion", "_ctypes", "Union", false),
     ("Structure", "_ctypes", "Structure", false),
     ("Union", "_ctypes", "Union", false),
     ("c_int16", "ctypes", "c_short", false),
     ("c_int32", "ctypes", "c_int", false),
     ("c_int64", "ctypes", "c_long", false),
     ("c_int8", "ctypes", "c_byte", false),
     ("c_longlong", "ctypes", "c_long", false),
     ("c_size_t", "ctypes", "c_ulong", false),
     ("c_ssize_t", "ctypes", "c_long", false),
     ("c_uint16", "ctypes", "c_ushort", false),
     ("c_uint32", "ctypes", "c_uint", false),
     ("c_uint64", "ctypes", "c_ulong", false),
     ("c_uint8", "ctypes", "c_ubyte", false),
     ("c_ulonglong", "ctypes", "c_ulong", false),
     ("c_voidp", "ctypes", "c_void_p", false)]

def socketCatalog : Catalog where
  path := "socket"
  plain :=
    "gaierror herror socket"
  special :=
    "AddressFamily AddressInfo MsgFlag SocketIO SocketKind"
  scriptedRoutines :=
    "create_connection create_server fromfd getaddrinfo getfqdn has_dualstack_ipv6 recv_fds
     send_fds socketpair"
  elsewhere :=
    [("IntEnum", "enum", "IntEnum", false),
     ("IntFlag", "enum", "IntFlag", false),
     ("SocketType", "_socket", "socket", true),
     ("error", "builtins", "OSError", true),
     ("timeout", "builtins", "TimeoutError", true)]

def structCatalog : Catalog where
  path := "struct"
  plain :=
    "error"
  elsewhere :=
    [("Struct", "_struct", "Struct", true)]

def tempfileCatalog : Catalog where
  path := "tempfile"
  plainGeneric :=
    "TemporaryDirectory"
  specialGeneric :=
    "SpooledTemporaryFile"
  scriptedRoutines :=
    "NamedTemporaryFile TemporaryFile gettempdir gettempdirb gettempprefix gettempprefixb mkdtemp
     mkstemp mktemp"

def tracebackCatalog : Catalog where
  path := "traceback"
  plain :=
    "FrameSummary TracebackException"
  plainGeneric :=
    "StackSummary"
  scriptedRoutines :=
    "clear_frames extract_stack extract_tb format_exc format_exception format_exception_only
     format_list format_stack format_tb print_exc print_exception print_last print_list
     print_stack print_tb walk_stack walk_tb"
  elsewhere :=
    [("suppress", "contextlib", "suppress", false)]

def mathCatalog : Catalog where
  path := "math"
  builtinRoutines :=
    "acos acosh asin asinh atan atan2 atanh cbrt ceil comb copysign cos cosh degrees dist erf
     erfc exp exp2 expm1 fabs factorial floor fmod frexp fsum gamma gcd hypot isclose isfinite
     isinf isnan isqrt lcm ldexp lgamma log log10 log1p log2 modf nextafter perm pow prod radians
     remainder sin sinh sqrt tan tanh trunc ulp"

def sysCatalog : Catalog where
  path := "sys"
  builtinRoutines :=
    "addaudithook audit breakpointhook call_tracing displayhook exc_info excepthook exception
     exit get_asyncgen_hooks get_coroutine_origin_tracking_depth get_int_max_str_digits
     getallocatedblocks getdefaultencoding getdlopenflags getfilesystemencodeerrors
     getfilesystemencoding getprofile getrecursionlimit getrefcount getsizeof getswitchinterval
     gettrace intern is_finalizing set_asyncgen_hooks set_coroutine_origin_tracking_depth
     set_int_max_str_digits setdlopenflags setprofile setrecursionlimit setswitchinterval
     settrace unraisablehook"

def copyCatalog : Catalog where
  path := "copy"
  plain :=
    "Error"
  scriptedRoutines :=
    "copy deepcopy"
  elsewhere :=
    [("error", "copy", "Error", true)]

def csvCatalog : Catalog where
  path := "csv"
  plain :=
    "Dialect DictReader DictWriter Sniffer excel excel_tab unix_dialect"
  elsewhere :=
    [("Error", "_csv", "Error", true),
     ("StringIO", "_io", "StringIO", true)]

def heapqCatalog : Catalog where
  path := "heapq"
  scriptedRoutines :=
    "merge nlargest nsmallest"

def hashlibCatalog : Catalog where
  path := "hashlib"
  scriptedRoutines :=
    "file_digest"
  elsewhere :=
    [("blake2b", "_blake2", "blake2b", true),
     ("blake2s", "_blake2", "blake2s", true)]

def ipaddressCatalog : Catalog where
  path := "ipaddress"
  plain :=
    "AddressValueError IPv4Address IPv4Interface IPv4Network IPv6Address IPv6Interface
     IPv6Network NetmaskValueError"
  scriptedRoutines :=
    "collapse_addresses get_mixed_type_key ip_address ip_interface ip_network
     summarize_address_range v4_int_to_packed v6_int_to_packed"

def shutilCatalog : Catalog where
  path := "shutil"
  plain :=
    "Error ExecError ReadError RegistryError SameFileError SpecialFileError"
  scriptedRoutines :=
    "chown copy copy2 copyfile copyfileobj copymode copystat copytree disk_usage
     get_archive_formats get_terminal_size get_unpack_formats ignore_patterns make_archive move
     register_archive_format register_unpack_format rmtree unpack_archive
     unregister_archive_format unregister_unpack_format which"

def statisticsCatalog : Catalog where
  path := "statistics"
  plain :=
    "NormalDist StatisticsError"
  plainGeneric :=
    "LinearRegression"
  scriptedRoutines :=
    "correlation covariance fmean geometric_mean harmonic_mean linear_regression mean median
     median_grouped median_high median_low mode multimode pstdev pvariance quantiles stdev
     variance"
  elsewhere :=
    [("Counter", "collections", "Counter", true),
     ("Decimal", "decimal", "Decimal", true),
     ("Fraction", "fractions", "Fraction", false),
     ("defaultdict", "collections", "defaultdict", true),
     ("groupby", "itertools", "groupby", true),
     ("repeat", "itertools", "repeat", true)]

def textwrapCatalog : Catalog where
  path := "textwrap"
  plain :=
    "TextWrapper"
  scriptedRoutines :=
    "dedent fill indent shorten wrap"

def zoneinfoCatalog : Catalog where
  path := "zoneinfo"
  plain :=
    "ZoneInfo"
  elsewhere :=
    [("InvalidTZPathWarning", "zoneinfo._tzpath", "InvalidTZPathWarning", true),
     ("ZoneInfoNotFoundError", "zoneinfo._common", "ZoneInfoNotFoundError", true)]

def typingCatalog : Catalog where
  path := "typing"
  plain :=
    "Annotated BinaryIO ForwardRef Generic IO NamedTupleMeta NewType ParamSpec ParamSpecArgs
     ParamSpecKwargs TextIO TypeVar TypeVarTuple"
  special :=
    "Any Protocol SupportsAbs SupportsBytes SupportsComplex SupportsFloat SupportsIndex
     SupportsInt SupportsRound"
  scriptedRoutines :=
    "NamedTuple TypedDict assert_never assert_type cast clear_overloads dataclass_transform final
     get_args get_origin get_overloads get_type_hints is_typeddict no_type_check
     no_type_check_decorator overload reveal_type runtime_checkable"
  elsewhere :=
    [("ABCMeta", "abc", "ABCMeta", true),
     ("GenericAlias", "types", "GenericAlias", true),
     ("MethodDescriptorType", "builtins", "method_descriptor", true),
     ("MethodWrapperType", "builtins", "method-wrapper", true),
     ("Text", "builtins", "str", true),
     ("WrapperDescriptorType", "builtins", "wrapper_descriptor", true),
     ("defaultdict", "collections", "defaultdict", true)]

def catalogs : List Catalog :=
  [builtinsCatalog, collectionsCatalog, collectionsAbcCatalog, typesCatalog, arrayCatalog,
   datetimeCatalog, decimalCatalog, enumCatalog, functoolsCatalog, ioCatalog, loggingCatalog,
   osCatalog, posixpathCatalog, pathlibCatalog, reCatalog, abcCatalog, argparseCatalog,
   astCatalog,
   asyncioCatalog, contextlibCatalog, dataclassesCatalog, fractionsCatalog, inspectCatalog,
   itertoolsCatalog, jsonCatalog, numbersCatalog, operatorCatalog, queueCatalog, randomCatalog,
   stringCatalog, subprocessCatalog, threadingCatalog, timeCatalog, uuidCatalog,
   weakrefCatalog, concurrentFuturesCatalog, ctypesCatalog, socketCatalog, structCatalog,
   tempfileCatalog, tracebackCatalog, mathCatalog, sysCatalog, copyCatalog, csvCatalog,
   heapqCatalog, hashlibCatalog, ipaddressCatalog, shutilCatalog, statisticsCatalog,
   textwrapCatalog, zoneinfoCatalog, typingCatalog]

end DocHints.Library
