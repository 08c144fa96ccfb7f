/-!
# Further names of characters

Names that the standard gives beside the one of the character: corrections, names of controls and
abbreviations.
-/

namespace BoundQuery.Text.CharacterName

/-- The further names. -/
def aliases : String := "
  a+0+NULd+0+LaSOHb+0+TART OF HEADINGjTEXTc+0+XaEND OF TEXTb+0+TXbND OF TRANSMISSIONb+0+OTbNQ
  d+0+UIRYaACKd+0+NOWLEDGEbLERTa+0+BELbACKSPACEb+0+SaCHARACTER TABULATIONa+0+HORIZONTAL TABULATION
  b+0+Ta+0+TABaEND OF LINEb+0+OLa+0+LFb+0+INE FEEDa+0+NEW LINEb+0+LaLINE TABULATION
  a+0+VERTICAL TABULATIONb+0+TaFFb+0+ORM FEEDaCARRIAGE RETURNb+0+RaLOCKING-SHIFT ONEa+0+SHIFT OUT
  b+0+OaLOCKING-SHIFT ZEROa+0+SHIFT INb+0+IaDATA LINK ESCAPEb+0+LEbC1b+0+EVICE CONTROL ONEbC2
  b+0+EVICE CONTROL TWObC3b+0+EVICE CONTROL THREEbC4b+0+EVICE CONTROL FOURaNAK
  b+0+EGATIVE ACKNOWLEDGEaSYNd+0+CHRONOUS IDLEaEND OF TRANSMISSION BLOCKb+0+TBaCANd+0+CEL
  aEND OF MEDIUMb+0+OMaSUBd+0+STITUTEaESCd+0+APEaFILE SEPARATORb+0+Sa+0+INFORMATION SEPARATOR FOUR
  aGROUP SEPARATORb+0+Sa+0+INFORMATION SEPARATOR THREExWOa+0+RECORD SEPARATORb+0+S
  aINFORMATION SEPARATOR ONEa+0+UNIT SEPARATORb+0+SaSPa+5f+DELd+0+ETEaPADd+0+DING CHARACTER
  aHIGH OCTET PRESETb+0+OPaBPHb+0+REAK PERMITTED HEREaNBHb+0+O BREAK HEREaINDd+0+EXaNELc+0+XT LINE
  aSSAb+0+TART OF SELECTED AREAaEND OF SELECTED AREAb+0+SAaCHARACTER TABULATION SET
  a+0+HORIZONTAL TABULATION SETb+0+TSaCHARACTER TABULATION WITH JUSTIFICATION
  a+0+HORIZONTAL TABULATION WITH JUSTIFICATIONb+0+TJaLINE TABULATION SETa+0+VERTICAL TABULATION SET
  b+0+TSaPARTIAL LINE DOWNn+0+FORWARDb+0+LDbARTIAL LINE BACKWARDn+0+UPb+0+LUaREVERSE INDEX
  i+0+LINE FEEDb+0+IaSINGLE SHIFT TWOg+0+-SHIFT-2b+0+S2bINGLE SHIFT THREEg+0+-SHIFT-3b+0+S3aDCS
  b+0+EVICE CONTROL STRINGaPRIVATE USE ONEl+0+-1b+0+U1bRIVATE USE TWOl+0+-2b+0+U2aSET TRANSMIT STATE
  b+0+TSaCANCEL CHARACTERb+0+CHaMESSAGE WAITINGb+0+WaSPAb+0+TART OF GUARDED AREAj+0+PROTECTED AREA
  aEND OF GUARDED AREAh+0+PROTECTED AREAb+0+PAaSOSb+0+TART OF STRINGbGC
  b+0+INGLE GRAPHIC CHARACTER INTRODUCERbCIb+0+INGLE CHARACTER INTRODUCER
  aCONTROL SEQUENCE INTRODUCERb+0+SIaSTc+0+RING TERMINATORaOPERATING SYSTEM COMMANDb+0+SCaPM
  b+0+RIVACY MESSAGEaAPCc+0+PLICATION PROGRAM COMMANDaNBSPa+d+SHYa+f5+LATIN CAPITAL LETTER GHA
  gSMALL LETTER GHAa+1ac+CGJa+2cd+ALMa+ed+SYRIAC SUBLINEAR COLON SKEWED LEFT
  a+5d5+KANNADA LETTER LLLAa+1bf+LAO LETTER FO FONp+2+AYl+4+ROl+2+LO
  a+12b+TIBETAN MARK BKA- SHOG GI MGO RGYANa+21c+HANGUL JONGSEONG YESIEUNG-KIYEOKbaSSANGKIYEOK
  rSSANGYESIEUNGrYESIEUNG-KHIEUKHa+61c+FVS1d2d3aMVSaFVS4a+7fc+ZWSPcNJcJaLRMaRLMa+1b+LREaRLEaPDFaLRO
  aRLOaNNBSPa+30+MMSPaWJa+6+LRIaRLIaFSIaPDIa+af+WEIERSTRASS ELLIPTIC FUNCTIONa+330+MICR ON US SYMBOL
  fDASH SYMBOLa+731+LEFTWARDS TRIANGLE-HEADED ARROW WITH DOUBLE VERTICAL STROKE
  a+2+RIGHTWARDS TRIANGLE-HEADED ARROW WITH DOUBLE VERTICAL STROKEa+7499+YI SYLLABLE ITERATION MARK
  a+a59+MYANMAR LETTER KHAMTI LLAa+5392+VS1c2c3c4c5c6c7c8c9c10d1d2d3d4d5d6
  a+9+PRESENTATION FORM FOR VERTICAL RIGHT WHITE LENTICULAR BRACKETa+e7+BOMb+0+YTE ORDER MARK
  a+0+ZWNBSPa+23d5+CUNEIFORM SIGN NU11 TENUuOVER NU11 BUR OVER BUR
  a+4b81+MEDEFAIDRIN CAPITAL LETTER HbbNGm+1f+SMALL LETTER HzNGa+418a+HENTAIGANA LETTER E-1
  a+20c4+BYZANTINE MUSICAL SYMBOL FTHORA SKLIRON CHROMA VASISa+c303b+VS17d8d9c20d1d2d3d4d5d6d7d8d9
  c30d1d2d3d4d5d6d7d8d9c40d1d2d3d4d5d6d7d8d9c50d1d2d3d4d5d6d7d8d9c60d1d2d3d4d5d6d7d8d9c70d1d2d3d4d5
  d6d7d8d9c80d1d2d3d4d5d6d7d8d9c90d1d2d3d4d5d6d7d8d9c100e1e2e3e4e5e6e7e8e9d10e1e2e3e4e5e6e7e8e9d20e1
  e2e3e4e5e6e7e8e9d30e1e2e3e4e5e6e7e8e9d40e1e2e3e4e5e6e7e8e9d50e1e2e3e4e5e6e7e8e9d60e1e2e3e4e5e6e7e8
  e9d70e1e2e3e4e5e6e7e8e9d80e1e2e3e4e5e6e7e8e9d90e1e2e3e4e5e6e7e8e9c200e1e2e3e4e5e6e7e8e9d10e1e2e3e4
  e5e6e7e8e9d20e1e2e3e4e5e6e7e8e9d30e1e2e3e4e5e6e7e8e9d40e1e2e3e4e5e6e7e8e9d50e1e2e3e4e5e6
  "

end BoundQuery.Text.CharacterName
