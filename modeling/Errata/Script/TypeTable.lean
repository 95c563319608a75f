/-!
# The types of a script

The types that a script can name or come by, with the names of their members. A member of a type is a method,
an operator, a function that needs no value, or data. Names are divided by blanks; a member that is data stands
with the type it has when it is asked of the type itself and of a value, divided by colons, where nothing
means that it is not there.
-/

namespace Errata.Script

/-- A type, with the types that it is a special case of, nearest first, and the names of its members. -/
structure TypeEntry where
  name : String
  ancestors : String
  methods : String
  operators : String
  functions : String
  data : String

namespace TypeEntry

/-- The types. -/
def all : List TypeEntry := [
  ⟨"ArithmeticError", "Exception BaseException object",
    "",
    "__init__",
    "__new__",
    ""⟩,
  ⟨"AssertionError", "Exception BaseException object",
    "",
    "__init__",
    "__new__",
    ""⟩,
  ⟨"AttributeError", "Exception BaseException object",
    "",
    "__str__ __init__",
    "",
    "name:member_descriptor:NoneType obj:member_descriptor:NoneType"⟩,
  ⟨"BaseException", "object",
    "__reduce__ __setstate__ with_traceback add_note",
    "__repr__ __str__ __getattribute__ __setattr__ __delattr__ __init__",
    "__new__",
    "__suppress_context__:member_descriptor:bool __dict__:mappingproxy:dict " ++
    "args:getset_descriptor:tuple __traceback__:getset_descriptor:NoneType " ++
    "__context__:getset_descriptor:NoneType __cause__:getset_descriptor:NoneType"⟩,
  ⟨"BaseExceptionGroup", "BaseException object",
    "derive split subgroup",
    "__str__ __init__",
    "__new__ __class_getitem__",
    "message:member_descriptor:str exceptions:member_descriptor:tuple __doc__:str:NoneType"⟩,
  ⟨"BlockingIOError", "OSError Exception BaseException object",
    "",
    "__init__",
    "",
    ""⟩,
  ⟨"BrokenPipeError", "ConnectionError OSError Exception BaseException object",
    "",
    "__init__",
    "",
    ""⟩,
  ⟨"BufferError", "Exception BaseException object",
    "",
    "__init__",
    "__new__",
    ""⟩,
  ⟨"BytesWarning", "Warning Exception BaseException object",
    "",
    "__init__",
    "__new__",
    ""⟩,
  ⟨"ChildProcessError", "OSError Exception BaseException object",
    "",
    "__init__",
    "",
    ""⟩,
  ⟨"ConnectionAbortedError", "ConnectionError OSError Exception BaseException object",
    "",
    "__init__",
    "",
    ""⟩,
  ⟨"ConnectionError", "OSError Exception BaseException object",
    "",
    "__init__",
    "",
    ""⟩,
  ⟨"ConnectionRefusedError", "ConnectionError OSError Exception BaseException object",
    "",
    "__init__",
    "",
    ""⟩,
  ⟨"ConnectionResetError", "ConnectionError OSError Exception BaseException object",
    "",
    "__init__",
    "",
    ""⟩,
  ⟨"DeprecationWarning", "Warning Exception BaseException object",
    "",
    "__init__",
    "__new__",
    ""⟩,
  ⟨"EOFError", "Exception BaseException object",
    "",
    "__init__",
    "__new__",
    ""⟩,
  ⟨"EncodingWarning", "Warning Exception BaseException object",
    "",
    "__init__",
    "__new__",
    ""⟩,
  ⟨"OSError", "Exception BaseException object",
    "__reduce__",
    "__str__ __init__",
    "__new__",
    "errno:member_descriptor:NoneType strerror:member_descriptor:NoneType " ++
    "filename:member_descriptor:NoneType filename2:member_descriptor:NoneType " ++
    "characters_written:getset_descriptor:"⟩,
  ⟨"Exception", "BaseException object",
    "",
    "__init__",
    "__new__",
    ""⟩,
  ⟨"ExceptionGroup", "BaseExceptionGroup Exception BaseException object",
    "",
    "",
    "",
    "__module__:str:str __weakref__:getset_descriptor:NoneType __doc__:NoneType:NoneType"⟩,
  ⟨"FileExistsError", "OSError Exception BaseException object",
    "",
    "__init__",
    "",
    ""⟩,
  ⟨"FileNotFoundError", "OSError Exception BaseException object",
    "",
    "__init__",
    "",
    ""⟩,
  ⟨"FloatingPointError", "ArithmeticError Exception BaseException object",
    "",
    "__init__",
    "__new__",
    ""⟩,
  ⟨"FutureWarning", "Warning Exception BaseException object",
    "",
    "__init__",
    "__new__",
    ""⟩,
  ⟨"GeneratorExit", "BaseException object",
    "",
    "__init__",
    "__new__",
    ""⟩,
  ⟨"ImportError", "Exception BaseException object",
    "__reduce__",
    "__str__ __init__",
    "",
    "msg:member_descriptor:str name:member_descriptor:NoneType " ++
    "path:member_descriptor:NoneType"⟩,
  ⟨"ImportWarning", "Warning Exception BaseException object",
    "",
    "__init__",
    "__new__",
    ""⟩,
  ⟨"IndentationError", "SyntaxError Exception BaseException object",
    "",
    "__init__",
    "",
    ""⟩,
  ⟨"IndexError", "LookupError Exception BaseException object",
    "",
    "__init__",
    "__new__",
    ""⟩,
  ⟨"InterruptedError", "OSError Exception BaseException object",
    "",
    "__init__",
    "",
    ""⟩,
  ⟨"IsADirectoryError", "OSError Exception BaseException object",
    "",
    "__init__",
    "",
    ""⟩,
  ⟨"KeyError", "LookupError Exception BaseException object",
    "",
    "__str__ __init__",
    "",
    ""⟩,
  ⟨"KeyboardInterrupt", "BaseException object",
    "",
    "__init__",
    "__new__",
    ""⟩,
  ⟨"LookupError", "Exception BaseException object",
    "",
    "__init__",
    "__new__",
    ""⟩,
  ⟨"MemoryError", "Exception BaseException object",
    "",
    "__init__",
    "__new__",
    ""⟩,
  ⟨"ModuleNotFoundError", "ImportError Exception BaseException object",
    "",
    "__init__",
    "",
    ""⟩,
  ⟨"NameError", "Exception BaseException object",
    "",
    "__str__ __init__",
    "",
    "name:member_descriptor:NoneType"⟩,
  ⟨"NotADirectoryError", "OSError Exception BaseException object",
    "",
    "__init__",
    "",
    ""⟩,
  ⟨"NotImplementedError", "RuntimeError Exception BaseException object",
    "",
    "__init__",
    "__new__",
    ""⟩,
  ⟨"OverflowError", "ArithmeticError Exception BaseException object",
    "",
    "__init__",
    "__new__",
    ""⟩,
  ⟨"PendingDeprecationWarning", "Warning Exception BaseException object",
    "",
    "__init__",
    "__new__",
    ""⟩,
  ⟨"PermissionError", "OSError Exception BaseException object",
    "",
    "__init__",
    "",
    ""⟩,
  ⟨"ProcessLookupError", "OSError Exception BaseException object",
    "",
    "__init__",
    "",
    ""⟩,
  ⟨"RecursionError", "RuntimeError Exception BaseException object",
    "",
    "__init__",
    "__new__",
    ""⟩,
  ⟨"ReferenceError", "Exception BaseException object",
    "",
    "__init__",
    "__new__",
    ""⟩,
  ⟨"ResourceWarning", "Warning Exception BaseException object",
    "",
    "__init__",
    "__new__",
    ""⟩,
  ⟨"RuntimeError", "Exception BaseException object",
    "",
    "__init__",
    "__new__",
    ""⟩,
  ⟨"RuntimeWarning", "Warning Exception BaseException object",
    "",
    "__init__",
    "__new__",
    ""⟩,
  ⟨"StopAsyncIteration", "Exception BaseException object",
    "",
    "__init__",
    "__new__",
    ""⟩,
  ⟨"StopIteration", "Exception BaseException object",
    "",
    "__init__",
    "",
    "value:member_descriptor:str"⟩,
  ⟨"SyntaxError", "Exception BaseException object",
    "",
    "__str__ __init__",
    "",
    "msg:member_descriptor:str filename:member_descriptor:NoneType " ++
    "lineno:member_descriptor:NoneType offset:member_descriptor:NoneType " ++
    "text:member_descriptor:NoneType end_lineno:member_descriptor:NoneType " ++
    "end_offset:member_descriptor:NoneType print_file_and_line:member_descriptor:NoneType"⟩,
  ⟨"SyntaxWarning", "Warning Exception BaseException object",
    "",
    "__init__",
    "__new__",
    ""⟩,
  ⟨"SystemError", "Exception BaseException object",
    "",
    "__init__",
    "__new__",
    ""⟩,
  ⟨"SystemExit", "BaseException object",
    "",
    "__init__",
    "",
    "code:member_descriptor:str"⟩,
  ⟨"TabError", "IndentationError SyntaxError Exception BaseException object",
    "",
    "__init__",
    "",
    ""⟩,
  ⟨"TimeoutError", "OSError Exception BaseException object",
    "",
    "__init__",
    "",
    ""⟩,
  ⟨"TypeError", "Exception BaseException object",
    "",
    "__init__",
    "__new__",
    ""⟩,
  ⟨"UnboundLocalError", "NameError Exception BaseException object",
    "",
    "__init__",
    "",
    ""⟩,
  ⟨"UnicodeDecodeError", "UnicodeError ValueError Exception BaseException object",
    "",
    "__str__ __init__",
    "__new__",
    "encoding:member_descriptor:str object:member_descriptor:bytes " ++
    "start:member_descriptor:int end:member_descriptor:int reason:member_descriptor:str"⟩,
  ⟨"UnicodeEncodeError", "UnicodeError ValueError Exception BaseException object",
    "",
    "__str__ __init__",
    "__new__",
    "encoding:member_descriptor:str object:member_descriptor:str start:member_descriptor:int " ++
    "end:member_descriptor:int reason:member_descriptor:str"⟩,
  ⟨"UnicodeError", "ValueError Exception BaseException object",
    "",
    "__init__",
    "__new__",
    ""⟩,
  ⟨"UnicodeTranslateError", "UnicodeError ValueError Exception BaseException object",
    "",
    "__str__ __init__",
    "__new__",
    "encoding:member_descriptor:NoneType object:member_descriptor:str " ++
    "start:member_descriptor:int end:member_descriptor:int reason:member_descriptor:str"⟩,
  ⟨"UnicodeWarning", "Warning Exception BaseException object",
    "",
    "__init__",
    "__new__",
    ""⟩,
  ⟨"UserWarning", "Warning Exception BaseException object",
    "",
    "__init__",
    "__new__",
    ""⟩,
  ⟨"ValueError", "Exception BaseException object",
    "",
    "__init__",
    "__new__",
    ""⟩,
  ⟨"Warning", "Exception BaseException object",
    "",
    "__init__",
    "__new__",
    ""⟩,
  ⟨"ZeroDivisionError", "ArithmeticError Exception BaseException object",
    "",
    "__init__",
    "__new__",
    ""⟩,
  ⟨"bool", "int object",
    "",
    "__repr__ __and__ __rand__ __xor__ __rxor__ __or__ __ror__",
    "__new__",
    ""⟩,
  ⟨"bytearray", "object",
    "__alloc__ __reduce__ __reduce_ex__ __sizeof__ append capitalize center clear copy count " ++
    "decode endswith expandtabs extend find hex index insert isalnum isalpha isascii isdigit " ++
    "islower isspace istitle isupper join ljust lower lstrip partition pop remove replace " ++
    "removeprefix removesuffix reverse rfind rindex rjust rpartition rsplit rstrip split " ++
    "splitlines startswith strip swapcase title translate upper zfill",
    "__repr__ __str__ __getattribute__ __lt__ __le__ __eq__ __ne__ __gt__ __ge__ __iter__ " ++
    "__init__ __mod__ __rmod__ __len__ __getitem__ __setitem__ __delitem__ __add__ __mul__ " ++
    "__rmul__ __contains__ __iadd__ __imul__",
    "__new__ fromhex maketrans",
    "__hash__:NoneType:NoneType"⟩,
  ⟨"bytes", "object",
    "__getnewargs__ __bytes__ capitalize center count decode endswith expandtabs find hex " ++
    "index isalnum isalpha isascii isdigit islower isspace istitle isupper join ljust lower " ++
    "lstrip partition replace removeprefix removesuffix rfind rindex rjust rpartition rsplit " ++
    "rstrip split splitlines startswith strip swapcase title translate upper zfill",
    "__repr__ __hash__ __str__ __getattribute__ __lt__ __le__ __eq__ __ne__ __gt__ __ge__ " ++
    "__iter__ __mod__ __rmod__ __len__ __getitem__ __add__ __mul__ __rmul__ __contains__",
    "__new__ fromhex maketrans",
    ""⟩,
  ⟨"classmethod", "object",
    "",
    "__repr__ __get__ __init__",
    "__new__",
    "__func__:member_descriptor:type __wrapped__:member_descriptor:type " ++
    "__isabstractmethod__:getset_descriptor:bool __dict__:mappingproxy:dict"⟩,
  ⟨"complex", "object",
    "conjugate __complex__ __getnewargs__ __format__",
    "__repr__ __hash__ __getattribute__ __lt__ __le__ __eq__ __ne__ __gt__ __ge__ __add__ " ++
    "__radd__ __sub__ __rsub__ __mul__ __rmul__ __pow__ __rpow__ __neg__ __pos__ __abs__ " ++
    "__bool__ __truediv__ __rtruediv__",
    "__new__",
    "real:member_descriptor:float imag:member_descriptor:float"⟩,
  ⟨"dict", "object",
    "__getitem__ __contains__ __sizeof__ get setdefault pop popitem keys items values update " ++
    "clear copy __reversed__",
    "__repr__ __getattribute__ __lt__ __le__ __eq__ __ne__ __gt__ __ge__ __iter__ __init__ " ++
    "__or__ __ror__ __ior__ __len__ __setitem__ __delitem__",
    "__new__ fromkeys __class_getitem__",
    "__hash__:NoneType:NoneType"⟩,
  ⟨"enumerate", "object",
    "__reduce__",
    "__getattribute__ __iter__ __next__",
    "__new__ __class_getitem__",
    ""⟩,
  ⟨"filter", "object",
    "__reduce__",
    "__getattribute__ __iter__ __next__",
    "__new__",
    ""⟩,
  ⟨"float", "object",
    "conjugate __trunc__ __floor__ __ceil__ __round__ as_integer_ratio hex is_integer " ++
    "__getnewargs__ __format__",
    "__repr__ __hash__ __getattribute__ __lt__ __le__ __eq__ __ne__ __gt__ __ge__ __add__ " ++
    "__radd__ __sub__ __rsub__ __mul__ __rmul__ __mod__ __rmod__ __divmod__ __rdivmod__ " ++
    "__pow__ __rpow__ __neg__ __pos__ __abs__ __bool__ __int__ __float__ __floordiv__ " ++
    "__rfloordiv__ __truediv__ __rtruediv__",
    "__new__ fromhex __getformat__",
    "real:getset_descriptor:float imag:getset_descriptor:float"⟩,
  ⟨"frozenset", "object",
    "__contains__ copy difference intersection isdisjoint issubset issuperset __reduce__ " ++
    "__sizeof__ symmetric_difference union",
    "__repr__ __hash__ __getattribute__ __lt__ __le__ __eq__ __ne__ __gt__ __ge__ __iter__ " ++
    "__sub__ __rsub__ __and__ __rand__ __xor__ __rxor__ __or__ __ror__ __len__",
    "__new__ __class_getitem__",
    ""⟩,
  ⟨"int", "object",
    "conjugate bit_length bit_count to_bytes as_integer_ratio __trunc__ __floor__ __ceil__ " ++
    "__round__ __getnewargs__ __format__ __sizeof__",
    "__repr__ __hash__ __getattribute__ __lt__ __le__ __eq__ __ne__ __gt__ __ge__ __add__ " ++
    "__radd__ __sub__ __rsub__ __mul__ __rmul__ __mod__ __rmod__ __divmod__ __rdivmod__ " ++
    "__pow__ __rpow__ __neg__ __pos__ __abs__ __bool__ __invert__ __lshift__ __rlshift__ " ++
    "__rshift__ __rrshift__ __and__ __rand__ __xor__ __rxor__ __or__ __ror__ __int__ " ++
    "__float__ __floordiv__ __rfloordiv__ __truediv__ __rtruediv__ __index__",
    "__new__ from_bytes",
    "real:getset_descriptor:int imag:getset_descriptor:int numerator:getset_descriptor:int " ++
    "denominator:getset_descriptor:int"⟩,
  ⟨"list", "object",
    "__getitem__ __reversed__ __sizeof__ clear copy append insert extend pop remove index " ++
    "count reverse sort",
    "__repr__ __getattribute__ __lt__ __le__ __eq__ __ne__ __gt__ __ge__ __iter__ __init__ " ++
    "__len__ __setitem__ __delitem__ __add__ __mul__ __rmul__ __contains__ __iadd__ __imul__",
    "__new__ __class_getitem__",
    "__hash__:NoneType:NoneType"⟩,
  ⟨"map", "object",
    "__reduce__",
    "__getattribute__ __iter__ __next__",
    "__new__",
    ""⟩,
  ⟨"memoryview", "object",
    "release tobytes hex tolist cast toreadonly __enter__ __exit__",
    "__repr__ __hash__ __getattribute__ __lt__ __le__ __eq__ __ne__ __gt__ __ge__ __iter__ " ++
    "__len__ __getitem__ __setitem__ __delitem__",
    "__new__",
    "obj:getset_descriptor:bytes nbytes:getset_descriptor:int readonly:getset_descriptor:bool " ++
    "itemsize:getset_descriptor:int format:getset_descriptor:str ndim:getset_descriptor:int " ++
    "shape:getset_descriptor:tuple strides:getset_descriptor:tuple " ++
    "suboffsets:getset_descriptor:tuple c_contiguous:getset_descriptor:bool " ++
    "f_contiguous:getset_descriptor:bool contiguous:getset_descriptor:bool"⟩,
  ⟨"object", "",
    "__reduce_ex__ __reduce__ __getstate__ __format__ __sizeof__ __dir__",
    "__repr__ __hash__ __str__ __getattribute__ __setattr__ __delattr__ __lt__ __le__ __eq__ " ++
    "__ne__ __gt__ __ge__ __init__",
    "__new__ __subclasshook__ __init_subclass__",
    "__class__:type:type"⟩,
  ⟨"property", "object",
    "getter setter deleter __set_name__",
    "__getattribute__ __get__ __set__ __delete__ __init__",
    "__new__",
    "fget:member_descriptor:NoneType fset:member_descriptor:NoneType " ++
    "fdel:member_descriptor:NoneType __doc__:str:NoneType " ++
    "__isabstractmethod__:getset_descriptor:bool"⟩,
  ⟨"range", "object",
    "__reversed__ __reduce__ count index",
    "__repr__ __hash__ __getattribute__ __lt__ __le__ __eq__ __ne__ __gt__ __ge__ __iter__ " ++
    "__bool__ __len__ __getitem__ __contains__",
    "__new__",
    "start:member_descriptor:int stop:member_descriptor:int step:member_descriptor:int"⟩,
  ⟨"reversed", "object",
    "__length_hint__ __reduce__ __setstate__",
    "__getattribute__ __iter__ __next__",
    "__new__",
    "__doc__:str:NoneType"⟩,
  ⟨"set", "object",
    "__contains__ add clear copy discard difference difference_update intersection " ++
    "intersection_update isdisjoint issubset issuperset pop __reduce__ remove __sizeof__ " ++
    "symmetric_difference symmetric_difference_update union update",
    "__repr__ __getattribute__ __lt__ __le__ __eq__ __ne__ __gt__ __ge__ __iter__ __init__ " ++
    "__sub__ __rsub__ __and__ __rand__ __xor__ __rxor__ __or__ __ror__ __isub__ __iand__ " ++
    "__ixor__ __ior__ __len__",
    "__new__ __class_getitem__",
    "__hash__:NoneType:NoneType"⟩,
  ⟨"slice", "object",
    "indices __reduce__",
    "__repr__ __getattribute__ __lt__ __le__ __eq__ __ne__ __gt__ __ge__",
    "__new__",
    "__hash__:NoneType:NoneType start:member_descriptor:NoneType stop:member_descriptor:int " ++
    "step:member_descriptor:NoneType"⟩,
  ⟨"staticmethod", "object",
    "",
    "__repr__ __call__ __get__ __init__",
    "__new__",
    "__func__:member_descriptor:type __wrapped__:member_descriptor:type " ++
    "__isabstractmethod__:getset_descriptor:bool __dict__:mappingproxy:dict"⟩,
  ⟨"str", "object",
    "encode replace split rsplit join capitalize casefold title center count expandtabs find " ++
    "partition index ljust lower lstrip rfind rindex rjust rstrip rpartition splitlines strip " ++
    "swapcase translate upper startswith endswith removeprefix removesuffix isascii islower " ++
    "isupper istitle isspace isdecimal isdigit isnumeric isalpha isalnum isidentifier " ++
    "isprintable zfill format format_map __format__ __sizeof__ __getnewargs__",
    "__repr__ __hash__ __str__ __getattribute__ __lt__ __le__ __eq__ __ne__ __gt__ __ge__ " ++
    "__iter__ __mod__ __rmod__ __len__ __getitem__ __add__ __mul__ __rmul__ __contains__",
    "__new__ maketrans",
    ""⟩,
  ⟨"super", "object",
    "",
    "__repr__ __getattribute__ __get__ __init__",
    "__new__",
    "__thisclass__:member_descriptor:type __self__:member_descriptor:object " ++
    "__self_class__:member_descriptor:type"⟩,
  ⟨"tuple", "object",
    "__getnewargs__ index count",
    "__repr__ __hash__ __getattribute__ __lt__ __le__ __eq__ __ne__ __gt__ __ge__ __iter__ " ++
    "__len__ __getitem__ __add__ __mul__ __rmul__ __contains__",
    "__new__ __class_getitem__",
    ""⟩,
  ⟨"type", "object",
    "mro __subclasses__ __instancecheck__ __subclasscheck__ __dir__ __sizeof__",
    "__repr__ __call__ __getattribute__ __setattr__ __delattr__ __init__ __or__ __ror__",
    "__new__ __prepare__",
    ""⟩,
  ⟨"zip", "object",
    "__reduce__ __setstate__",
    "__getattribute__ __iter__ __next__",
    "__new__",
    ""⟩,
  ⟨"function", "object",
    "",
    "__repr__ __call__ __get__",
    "__new__",
    "__closure__:member_descriptor:NoneType __doc__:str:NoneType " ++
    "__globals__:member_descriptor:dict __module__:str:str " ++
    "__builtins__:member_descriptor:dict __code__:getset_descriptor:code " ++
    "__defaults__:getset_descriptor:NoneType __kwdefaults__:getset_descriptor:NoneType " ++
    "__annotations__::dict __dict__:mappingproxy:dict __name__:str:str __qualname__:str:str"⟩,
  ⟨"method", "object",
    "__reduce__",
    "__repr__ __hash__ __call__ __getattribute__ __setattr__ __delattr__ __lt__ __le__ __eq__ " ++
    "__ne__ __gt__ __ge__",
    "__new__",
    "__func__:member_descriptor:function __self__:member_descriptor:object " ++
    "__doc__:str:NoneType"⟩,
  ⟨"builtin_function_or_method", "object",
    "__reduce__",
    "__repr__ __hash__ __call__ __getattribute__ __lt__ __le__ __eq__ __ne__ __gt__ __ge__",
    "",
    "__module__:str:str __doc__:getset_descriptor:str __name__:str:str __qualname__:str:str " ++
    "__self__:getset_descriptor:module __text_signature__:NoneType:str"⟩,
  ⟨"method_descriptor", "object",
    "__reduce__",
    "__repr__ __call__ __getattribute__ __get__",
    "",
    "__objclass__:member_descriptor:type __name__:str:str __doc__:getset_descriptor:str " ++
    "__qualname__:str:str __text_signature__:NoneType:str"⟩,
  ⟨"wrapper_descriptor", "object",
    "__reduce__",
    "__repr__ __call__ __getattribute__ __get__",
    "",
    "__objclass__:member_descriptor:type __name__:str:str __doc__:getset_descriptor:str " ++
    "__qualname__:str:str __text_signature__:NoneType:str"⟩,
  ⟨"getset_descriptor", "object",
    "",
    "__repr__ __getattribute__ __get__ __set__ __delete__",
    "",
    "__objclass__:member_descriptor:type __name__:str:str __doc__:getset_descriptor:NoneType " ++
    "__qualname__:str:str"⟩,
  ⟨"member_descriptor", "object",
    "__reduce__",
    "__repr__ __getattribute__ __get__ __set__ __delete__",
    "",
    "__objclass__:member_descriptor:type __name__:str:str __doc__:getset_descriptor:NoneType " ++
    "__qualname__:str:str"⟩,
  ⟨"method-wrapper", "object",
    "__reduce__",
    "__repr__ __hash__ __call__ __getattribute__ __lt__ __le__ __eq__ __ne__ __gt__ __ge__",
    "",
    "__self__:member_descriptor:int __objclass__:getset_descriptor:type __name__:str:str " ++
    "__qualname__:str:str __doc__:getset_descriptor:str __text_signature__:NoneType:str"⟩,
  ⟨"mappingproxy", "object",
    "get keys values items copy __reversed__",
    "__repr__ __str__ __getattribute__ __lt__ __le__ __eq__ __ne__ __gt__ __ge__ __iter__ " ++
    "__or__ __ror__ __ior__ __len__ __getitem__ __contains__",
    "__new__ __class_getitem__",
    "__doc__:NoneType:NoneType __hash__:NoneType:NoneType"⟩,
  ⟨"NoneType", "object",
    "",
    "__repr__ __bool__",
    "__new__",
    "__doc__:NoneType:NoneType"⟩,
  ⟨"ellipsis", "object",
    "__reduce__",
    "__repr__ __getattribute__",
    "__new__",
    "__doc__:NoneType:NoneType"⟩,
  ⟨"NotImplementedType", "object",
    "__reduce__",
    "__repr__ __bool__",
    "__new__",
    "__doc__:NoneType:NoneType"⟩,
  ⟨"generator", "object",
    "send throw close __sizeof__",
    "__repr__ __getattribute__ __iter__ __next__ __del__",
    "",
    "gi_code:member_descriptor:code __name__:str:str __qualname__:str:str " ++
    "gi_yieldfrom:getset_descriptor:NoneType gi_running:getset_descriptor:bool " ++
    "gi_frame:getset_descriptor:frame gi_suspended:getset_descriptor:bool " ++
    "__doc__:NoneType:NoneType"⟩,
  ⟨"types.GenericAlias", "object",
    "__mro_entries__ __instancecheck__ __subclasscheck__ __reduce__ __dir__",
    "__repr__ __hash__ __call__ __getattribute__ __lt__ __le__ __eq__ __ne__ __gt__ __ge__ " ++
    "__iter__ __or__ __ror__ __getitem__",
    "__new__",
    "__origin__:member_descriptor:type __args__:member_descriptor:tuple " ++
    "__unpacked__:member_descriptor:bool __parameters__:getset_descriptor:tuple " ++
    "__typing_unpacked_tuple_args__:getset_descriptor:NoneType"⟩,
  ⟨"types.UnionType", "object",
    "",
    "__repr__ __hash__ __getattribute__ __lt__ __le__ __eq__ __ne__ __gt__ __ge__ __or__ " ++
    "__ror__ __getitem__",
    "",
    "__args__:member_descriptor:tuple __parameters__:getset_descriptor:tuple"⟩,
  ⟨"classmethod_descriptor", "object",
    "",
    "__repr__ __call__ __getattribute__ __get__",
    "",
    "__objclass__:member_descriptor:type __name__:str:str __doc__:getset_descriptor:str " ++
    "__qualname__:str:str __text_signature__:NoneType:str"⟩,
  ⟨"module", "object",
    "__dir__",
    "__repr__ __getattribute__ __setattr__ __delattr__ __init__",
    "__new__",
    "__dict__:mappingproxy:dict __annotations__::dict"⟩,
  ⟨"_Printer", "object",
    "",
    "",
    "",
    "__module__:str:str MAXLINES:int:int __init__:function:method " ++
    "_Printer__setup:function:method __repr__:function:method __call__:function:method " ++
    "__dict__:mappingproxy:dict __weakref__:getset_descriptor:NoneType"⟩,
  ⟨"Quitter", "object",
    "",
    "",
    "",
    "__module__:str:str __init__:function:method __repr__:function:method " ++
    "__call__:function:method __dict__:mappingproxy:dict " ++
    "__weakref__:getset_descriptor:NoneType __doc__:NoneType:NoneType"⟩,
  ⟨"_Helper", "object",
    "",
    "",
    "",
    "__module__:str:str __repr__:function:method __call__:function:method " ++
    "__dict__:mappingproxy:dict __weakref__:getset_descriptor:NoneType"⟩]

end TypeEntry

/-- The types that have a name of their own. -/
def typeNames : String :=
    "ArithmeticError AssertionError AttributeError BaseException BaseExceptionGroup " ++
    "BlockingIOError BrokenPipeError BufferError BytesWarning ChildProcessError " ++
    "ConnectionAbortedError ConnectionError ConnectionRefusedError ConnectionResetError " ++
    "DeprecationWarning EOFError EncodingWarning Exception ExceptionGroup FileExistsError " ++
    "FileNotFoundError FloatingPointError FutureWarning GeneratorExit ImportError " ++
    "ImportWarning IndentationError IndexError InterruptedError IsADirectoryError KeyError " ++
    "KeyboardInterrupt LookupError MemoryError ModuleNotFoundError NameError " ++
    "NotADirectoryError NotImplementedError OSError OverflowError PendingDeprecationWarning " ++
    "PermissionError ProcessLookupError RecursionError ReferenceError ResourceWarning " ++
    "RuntimeError RuntimeWarning StopAsyncIteration StopIteration SyntaxError SyntaxWarning " ++
    "SystemError SystemExit TabError TimeoutError TypeError UnboundLocalError " ++
    "UnicodeDecodeError UnicodeEncodeError UnicodeError UnicodeTranslateError UnicodeWarning " ++
    "UserWarning ValueError Warning ZeroDivisionError bool bytearray bytes classmethod " ++
    "complex dict enumerate filter float frozenset int list map memoryview object property " ++
    "range reversed set slice staticmethod str super tuple type zip"

/-- The functions that have a name. -/
def functionNames : String :=
    "__build_class__ __import__ abs aiter all anext any ascii bin breakpoint callable chr " ++
    "compile delattr dir divmod eval exec format getattr globals hasattr hash hex id input " ++
    "isinstance issubclass iter len locals max min next oct open ord pow print repr round " ++
    "setattr sorted sum vars"

end Errata.Script
